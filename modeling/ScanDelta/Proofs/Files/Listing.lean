import Mathlib.Data.List.Nodup
import ScanDelta.Files.Search
import ScanDelta.Proofs.Files.Resolution

/-!
# The regular files of a tree

* `EntryName name` : a name that an entry of a directory can have;
* `Node.WellFormed n` : a tree as a file system holds it, with different names in each directory;
* `Node.mem_regularFiles_iff`, `Node.nodup_regularFiles` : the files that are listed are those that stand in the tree, and
  each is listed once;
* `Location.pairwise_lt_sorted`, `Location.sorted_eq_of_perm` : different locations are put in increasing order, which
  does not depend on the order they come in;
* `Node.Relisted n n'` : the same tree, with the entries of its directories in another order;
* `Node.Relisted.perm` : the same files are listed then.
-/

set_option autoImplicit false

namespace ScanDelta

/-- A name that an entry of a directory can have. -/
structure EntryName (name : String) : Prop where
  named : Disk.Named name
  noSlash : '/' ∉ name.toList
  noNul : Char.ofNat 0 ∉ name.toList

instance (name : String) : Decidable (EntryName name) :=
  decidable_of_iff (Disk.Named name ∧ '/' ∉ name.toList ∧ Char.ofNat 0 ∉ name.toList)
    ⟨fun h => ⟨h.1, h.2.1, h.2.2⟩, fun h => ⟨h.named, h.noSlash, h.noNul⟩⟩

namespace Node

/-! ## Trees as a file system holds them -/

/-- In each directory the entries have different names, which entries can have. -/
inductive WellFormed : Node → Prop
  | file (bytes : ByteArray) : WellFormed (.file bytes)
  | link (target : String) : WellFormed (.link target)
  | dir {es : List (String × Node)} (different : (es.map (·.1)).Nodup) (names : ∀ e ∈ es, EntryName e.1)
      (nodes : ∀ e ∈ es, WellFormed e.2) : WellFormed (.dir es)

theorem child?_of_mem {es : List (String × Node)} (h : (es.map (·.1)).Nodup) {e : String × Node} (he : e ∈ es) :
    (dir es).child? e.1 = some e.2 := by
  induction es with
  | nil => cases he
  | cons first es ih =>
    obtain ⟨hfirst, hrest⟩ := List.nodup_cons.1 h
    unfold child? entries at ih ⊢
    rcases List.mem_cons.1 he with rfl | he
    · rw [List.find?_cons_of_pos (by simp)]
      rfl
    · have hne : first.1 ≠ e.1 := fun heq => hfirst (List.mem_map.2 ⟨e, he, heq.symm⟩)
      rw [List.find?_cons_of_neg (by simp [hne])]
      exact ih hrest he

theorem mem_of_child? {es : List (String × Node)} {name : String} {n : Node} (h : (dir es).child? name = some n) :
    (name, n) ∈ es := by
  obtain ⟨e, he, rfl⟩ := Option.map_eq_some_iff.1 h
  have hname := List.find?_some he
  obtain rfl := of_decide_eq_true hname
  exact List.mem_of_find?_eq_some he

/-- All names on the way to something are names that entries can have. -/
theorem WellFormed.entryName {n : Node} (h : n.WellFormed) {loc : Location} {e : Entry} (he : n.look loc = some e) :
    ∀ name ∈ loc, EntryName name := by
  induction h generalizing loc with
  | file bytes => cases loc with
    | nil => exact nofun
    | cons name rest => cases he
  | link target => cases loc with
    | nil => exact nofun
    | cons name rest => cases he
  | @dir es different names nodes ih =>
    cases loc with
    | nil => exact nofun
    | cons first rest =>
      rw [look_cons] at he
      obtain ⟨c, hc, hrest⟩ := Option.bind_eq_some_iff.1 he
      have hmem := mem_of_child? hc
      intro name hname
      rcases List.mem_cons.1 hname with rfl | hname
      · exact names _ hmem
      · exact ih _ hmem hrest name hname

/-! ## Regular files -/

theorem regularFilesIn_eq (es : List (String × Node)) :
    regularFilesIn es = es.flatMap fun e => e.2.regularFiles.map (e.1 :: ·) := by
  induction es with
  | nil => rfl
  | cons e es ih =>
    obtain ⟨name, n⟩ := e
    rw [regularFilesIn, ih, List.flatMap_cons, regularFilesAt]

theorem mem_regularFiles_dir (es : List (String × Node)) (loc : Location) :
    loc ∈ (dir es).regularFiles ↔ ∃ e ∈ es, ∃ rest ∈ e.2.regularFiles, e.1 :: rest = loc := by
  rw [regularFiles, regularFilesIn_eq, List.mem_flatMap]
  simp only [List.mem_map]

/-- The files that are listed are those that stand in the tree. What a link leads to does not stand there. -/
theorem mem_regularFiles_iff {n : Node} (h : n.WellFormed) (loc : Location) :
    loc ∈ n.regularFiles ↔ ∃ bytes, n.look loc = some (.file bytes) := by
  induction h generalizing loc with
  | file bytes =>
    cases loc with
    | nil => simp [regularFiles, entry]
    | cons name rest => simp [regularFiles, look_cons, child?, entries]
  | link target =>
    cases loc with
    | nil => simp [regularFiles, entry]
    | cons name rest => simp [regularFiles, look_cons, child?, entries]
  | @dir es different names nodes ih =>
    rw [mem_regularFiles_dir]
    constructor
    · rintro ⟨e, he, rest, hrest, rfl⟩
      obtain ⟨bytes, hbytes⟩ := (ih e he rest).1 hrest
      exact ⟨bytes, by rw [look_cons, child?_of_mem different he, Option.bind_some, hbytes]⟩
    · rintro ⟨bytes, hbytes⟩
      cases loc with
      | nil => cases hbytes
      | cons name rest =>
        rw [look_cons] at hbytes
        obtain ⟨c, hc, hrest⟩ := Option.bind_eq_some_iff.1 hbytes
        have hmem := mem_of_child? hc
        exact ⟨_, hmem, rest, (ih _ hmem rest).2 ⟨bytes, hrest⟩, rfl⟩

/-- Each file is listed once. -/
theorem nodup_regularFiles {n : Node} (h : n.WellFormed) : n.regularFiles.Nodup := by
  induction h with
  | file bytes => exact List.nodup_singleton []
  | link target => exact List.nodup_nil
  | @dir es different names nodes ih =>
    rw [regularFiles, regularFilesIn_eq, List.nodup_flatMap]
    refine ⟨fun e he => (ih e he).map fun _ _ heq => (List.cons.inj heq).2, ?_⟩
    refine (List.pairwise_map.1 different).imp ?_
    -- files in different entries differ in their first names
    intro e e' hne loc hloc hloc'
    obtain ⟨rest, -, rfl⟩ := List.mem_map.1 hloc
    obtain ⟨rest', -, heq⟩ := List.mem_map.1 hloc'
    exact hne (List.cons.inj heq).1.symm

/-! ## Entries in another order -/

mutual

/-- The same tree, with the entries of its directories in another order. -/
inductive Relisted : Node → Node → Prop
  | file (bytes : ByteArray) : Relisted (.file bytes) (.file bytes)
  | link (target : String) : Relisted (.link target) (.link target)
  | dir {es es' : List (String × Node)} (h : RelistedIn es es') : Relisted (.dir es) (.dir es')

/-- The same entries in another order. -/
inductive RelistedIn : List (String × Node) → List (String × Node) → Prop
  | nil : RelistedIn [] []
  | cons (name : String) {n n' : Node} {es es' : List (String × Node)} (hn : Relisted n n') (hes : RelistedIn es es') :
      RelistedIn ((name, n) :: es) ((name, n') :: es')
  | swap (e e' : String × Node) (es : List (String × Node)) : RelistedIn (e :: e' :: es) (e' :: e :: es)
  | trans {es es' es'' : List (String × Node)} (h : RelistedIn es es') (h' : RelistedIn es' es'') : RelistedIn es es''

end

mutual

/-- The same files are listed, if in another order. -/
theorem Relisted.perm : ∀ {n n' : Node}, Relisted n n' → n.regularFiles.Perm n'.regularFiles
  | _, _, .file _ => .refl _
  | _, _, .link _ => .refl _
  | _, _, .dir h => h.perm

theorem RelistedIn.perm : ∀ {es es' : List (String × Node)}, RelistedIn es es' →
    (regularFilesIn es).Perm (regularFilesIn es')
  | _, _, .nil => .refl _
  | _, _, .cons name hn hes => (hn.perm.map (name :: ·)).append hes.perm
  | _, _, .swap e e' es => by
    rw [regularFilesIn, regularFilesIn, regularFilesIn, regularFilesIn, ← List.append_assoc, ← List.append_assoc]
    exact List.perm_append_comm.append_right _
  | _, _, .trans h h' => h.perm.trans h'.perm

end

end Node

namespace Location

/-! ## Increasing order -/

theorem sorted_perm (ls : List Location) : (sorted ls).Perm ls := List.mergeSort_perm ls _

theorem pairwise_sorted (ls : List Location) : (sorted ls).Pairwise fun a b => ¬ b < a := by
  have htrans : ∀ a b c : Location, ¬ b < a → ¬ c < b → ¬ c < a := fun _ _ _ => List.le_trans
  have htotal : ∀ a b : Location, ¬ b < a ∨ ¬ a < b := List.le_total
  have h : (sorted ls).Pairwise fun a b => (!decide (b < a)) = true :=
    List.pairwise_mergeSort (fun a b c => by simpa using htrans a b c) (fun a b => by simpa using htotal a b) ls
  exact h.imp (by simp)

theorem lt_of_not_lt_of_ne {a b : Location} (h : ¬ b < a) (hne : a ≠ b) : a < b :=
  Classical.byContradiction fun hab => hne (List.le_antisymm h hab)

/-- Different locations stand in strictly increasing order. -/
theorem pairwise_lt_sorted {ls : List Location} (h : ls.Nodup) : (sorted ls).Pairwise (· < ·) := by
  have hne : (sorted ls).Pairwise (· ≠ ·) := (sorted_perm ls).nodup_iff.2 h
  exact (pairwise_sorted ls).imp₂ (fun _ _ => lt_of_not_lt_of_ne) hne

/-- The order in which locations come makes no difference. -/
theorem sorted_eq_of_perm {ls ls' : List Location} (h : ls.Perm ls') : sorted ls = sorted ls' := by
  refine List.Perm.eq_of_pairwise ?_ (pairwise_sorted ls) (pairwise_sorted ls')
    ((sorted_perm ls).trans (h.trans (sorted_perm ls').symm))
  intro a b _ _ hab hba
  exact List.le_antisymm hab hba

end Location

end ScanDelta
