import Mathlib.Data.List.Infix
import ScanDelta.Proofs.Files.Below

/-!
# From a directory upwards

* `Path.parent_cases` : the parent of a path from the root on has all of its components but the last one;
* `Path.map_components_ancestors`, `Path.exists_ancestor` : the path and its parents, up to the root;
* `Disk.Straight d p` : a path from the root on, without `..`, on whose way there is no link;
* `Disk.arrives_straight_iff` : such a way leads through the directories that its names say;
* `Disk.HasEntry d p name n` : the directory has an entry of this name, which is the node or leads to it;
* `Disk.node?_join_iff` : on a straight way it is what the path of the entry leads to.
-/

set_option autoImplicit false

namespace ScanDelta

/-! ## Parents -/

namespace Path

/-- The names that count, as characters. -/
def loud (ss : List (List Char)) : List (List Char) := ss.filter fun s => !isSilent s

theorem components_eq (p : String) : components p = (loud (segments p)).map String.ofList := by
  rw [components, Disk.names, List.filter_map, loud]
  congr 2
  funext s
  rw [Function.comp_apply, String.toList_ofList]

theorem dropSilent_cons (s : List Char) (ss : List (List Char)) : dropSilent true (s :: ss) =
    if dropSilent true ss = [] ∧ isSilent s = true then [] else s :: dropSilent true ss := by
  rw [dropSilent]
  cases dropSilent true ss with
  | nil => simp [isSilent]
  | cons t ts => simp

theorem dropSilent_subset (ss : List (List Char)) : dropSilent true ss ⊆ ss := by
  induction ss with
  | nil => exact List.Subset.refl []
  | cons s ss ih =>
    rw [dropSilent_cons]
    split
    · exact List.nil_subset _
    · exact List.cons_subset_cons s ih

/-- The names at the end that do not count are left out, and no others. -/
theorem loud_dropSilent (ss : List (List Char)) : loud (dropSilent true ss) = loud ss := by
  induction ss with
  | nil => rfl
  | cons s ss ih =>
    rw [dropSilent_cons]
    split
    · rename_i h
      rw [loud, loud, List.filter_cons_of_neg (by simp [h.2])]
      rw [h.1] at ih
      exact ih
    · rw [loud, loud, List.filter_cons, List.filter_cons]
      split
      · exact congrArg (s :: ·) ih
      · exact ih

/-- If anything is left, it ends in a name that counts. -/
theorem dropSilent_cases (ss : List (List Char)) : dropSilent true ss = [] ∨
    ∃ before s, dropSilent true ss = before ++ [s] ∧ isSilent s = false := by
  induction ss with
  | nil => exact .inl rfl
  | cons s ss ih =>
    rw [dropSilent_cons]
    split
    · exact .inl rfl
    · rename_i hnot
      rcases ih with hnil | ⟨before, last, hdrop, hlast⟩
      · rw [hnil]
        exact .inr ⟨[], s, rfl, by simpa [hnil] using hnot⟩
      · rw [hdrop]
        exact .inr ⟨s :: before, last, rfl, hlast⟩

/-- The names of a path from the root on that is put together from names. -/
theorem loud_segments_joinWith {ss : List (List Char)} (h : ∀ s ∈ ss, '/' ∉ s) :
    loud (segments (String.ofList ('/' :: Text.joinWith '/' ss))) = loud ss := by
  have hsegments : segments (String.ofList ('/' :: Text.joinWith '/' ss)) =
      Text.splitOn '/' (Text.joinWith '/' ss) := by
    unfold segments
    rw [String.toList_ofList]
    rfl
  rw [hsegments]
  by_cases hne : ss = []
  · rw [hne]
    rfl
  · rw [Text.splitOn_eq, Text.joinWith, List.splitOn_intercalate '/' h hne]

theorem isAbsolute_ofList (cs : List Char) : isAbsolute (String.ofList ('/' :: cs)) = true := by
  rw [isAbsolute, String.toList_ofList]
  rfl

theorem not_mem_of_mem_segments {p : String} {s : List Char} (h : s ∈ segments p) : '/' ∉ s := by
  rw [segments] at h
  split at h <;> exact Text.not_mem_of_mem_splitOn h

/-- A path from the root on is the root, or it has a parent, to which its last component leads back. -/
theorem parent_cases {p : String} (h : isAbsolute p = true) : (parent? p = none ∧ components p = []) ∨
    ∃ q name, parent? p = some q ∧ isAbsolute q = true ∧ components p = components q ++ [name] := by
  have hloud := loud_dropSilent (segments p)
  have hsub := dropSilent_subset (segments p)
  rcases dropSilent_cases (segments p) with hnil | ⟨before, s, hdrop, hs⟩
  · rw [hnil] at hloud
    refine .inl ⟨?_, ?_⟩
    · rw [parent?, h, hnil]
    · rw [components_eq, ← hloud]
      rfl
  · rw [hdrop] at hloud hsub
    have hslash : ∀ t ∈ dropSilent true before, '/' ∉ t := fun t ht =>
      not_mem_of_mem_segments (hsub (List.mem_append_left [s] (dropSilent_subset before ht)))
    have hlast : loud (before ++ [s]) = loud before ++ [s] := by
      rw [loud, List.filter_append, List.filter_cons_of_pos (by simp [hs])]
      rfl
    refine .inr ⟨String.ofList ('/' :: Text.joinWith '/' (dropSilent true before)), String.ofList s, ?_,
      isAbsolute_ofList _, ?_⟩
    · have hne : before ++ [s] ≠ [] := List.concat_ne_nil s before
      rw [parent?, h, hdrop]
      split
      · exact absurd ‹_› hne
      · rw [List.dropLast_concat]
        rfl
    · rw [components_eq, components_eq, loud_segments_joinWith hslash, loud_dropSilent, ← hloud, hlast, List.map_append]
      rfl

/-- A path has no more components than characters. -/
theorem length_components_le {p : String} (h : isAbsolute p = true) : (components p).length ≤ p.length := by
  have hfilter : (components p).length ≤ (segments p).length := by
    rw [components_eq, List.length_map]
    exact List.length_filter_le _ _
  refine Nat.le_trans hfilter ?_
  have hhead : p.toList.head? = some '/' := of_decide_eq_true h
  obtain ⟨cs, hcs⟩ := List.head?_eq_some_iff.1 hhead
  rw [segments, hcs, ← String.length_toList, hcs]
  show (Text.splitOn '/' cs).length ≤ cs.length + 1
  rw [Text.length_splitOn]
  exact Nat.succ_le_succ List.count_le_length

theorem inits_concat {α : Type} (l : List α) (a : α) : (l ++ [a]).inits.reverse = (l ++ [a]) :: l.inits.reverse := by
  rw [List.inits_append, List.reverse_append]
  rfl

theorem map_components_ancestorsFrom (n : Nat) {p : String} (h : isAbsolute p = true)
    (hn : (components p).length ≤ n) : (ancestorsFrom n p).map components = (components p).inits.reverse := by
  induction n generalizing p with
  | zero =>
    have hnil : components p = [] := List.length_eq_zero_iff.1 (Nat.le_zero.1 hn)
    rw [ancestorsFrom, List.map_singleton, hnil]
    rfl
  | succ n ih =>
    rw [ancestorsFrom]
    rcases parent_cases h with ⟨hnone, hnil⟩ | ⟨q, name, hq, habsolute, hcomponents⟩
    · rw [hnone, List.map_singleton, hnil]
      rfl
    · rw [hcomponents, List.length_append, List.length_singleton] at hn
      rw [hq, List.map_cons, ih habsolute (Nat.le_of_succ_le_succ hn), hcomponents, inits_concat]

theorem isAbsolute_of_mem_ancestorsFrom (n : Nat) {p q : String} (h : isAbsolute p = true)
    (hq : q ∈ ancestorsFrom n p) : isAbsolute q = true := by
  induction n generalizing p with
  | zero =>
    obtain rfl := List.mem_singleton.1 hq
    exact h
  | succ n ih =>
    rw [ancestorsFrom] at hq
    rcases List.mem_cons.1 hq with rfl | hq
    · exact h
    · rcases parent_cases h with ⟨hnone, -⟩ | ⟨r, name, hr, habsolute, -⟩
      · rw [hnone] at hq
        cases hq
      · rw [hr] at hq
        exact ih habsolute hq

/-- **The parents of a path go up to the root**, one component at a time. -/
theorem map_components_ancestors {p : String} (h : isAbsolute p = true) :
    (ancestors p).map components = (components p).inits.reverse :=
  map_components_ancestorsFrom p.length h (length_components_le h)

theorem isAbsolute_of_mem_ancestors {p q : String} (h : isAbsolute p = true) (hq : q ∈ ancestors p) :
    isAbsolute q = true :=
  isAbsolute_of_mem_ancestorsFrom p.length h hq

theorem components_prefix_of_mem_ancestors {p q : String} (h : isAbsolute p = true) (hq : q ∈ ancestors p) :
    components q <+: components p := by
  have hmem : components q ∈ (ancestors p).map components := List.mem_map_of_mem hq
  rw [map_components_ancestors h, List.mem_reverse, List.mem_inits] at hmem
  exact hmem

/-- Before a beginning, longer ones stand among the beginnings from the whole on. -/
theorem exists_inits_eq {α : Type} (c rest : List α) : ∃ before after,
    (c ++ rest).inits.reverse = before ++ c :: after ∧ ∀ r ∈ before, c <+: r ∧ r ≠ c := by
  induction rest using List.reverseRecOn with
  | nil =>
    rw [List.append_nil]
    rcases List.eq_nil_or_concat' c with rfl | ⟨l, a, rfl⟩
    · exact ⟨[], [], rfl, List.forall_mem_nil _⟩
    · exact ⟨[], _, inits_concat l a, List.forall_mem_nil _⟩
  | append_singleton rest a ih =>
    obtain ⟨before, after, heq, hbefore⟩ := ih
    refine ⟨(c ++ rest ++ [a]) :: before, after, ?_, ?_⟩
    · rw [← List.append_assoc, inits_concat, heq, List.cons_append]
    · refine List.forall_mem_cons.2 ⟨⟨?_, ?_⟩, hbefore⟩
      · rw [List.append_assoc]
        exact List.prefix_append c _
      · rw [List.append_assoc, ne_eq, List.append_right_eq_self]
        exact List.concat_ne_nil a rest

/-- On the way upwards every location above is passed, and those before it are below it. -/
theorem exists_ancestor {p : String} (h : isAbsolute p = true) {c : Location} (hc : c <+: components p) :
    ∃ before q after, ancestors p = before ++ q :: after ∧ components q = c ∧
      ∀ r ∈ before, c <+: components r ∧ components r ≠ c := by
  obtain ⟨rest, hrest⟩ := hc
  obtain ⟨before, after, heq, hbefore⟩ := exists_inits_eq c rest
  have hmap := map_components_ancestors h
  rw [← hrest, heq] at hmap
  obtain ⟨qs, rs, hsplit, hqs, hrs⟩ := List.map_eq_append_iff.1 hmap
  obtain ⟨q, more, rfl, hq, -⟩ := List.map_eq_cons_iff.1 hrs
  refine ⟨qs, q, more, hsplit, hq, fun r hr => hbefore _ ?_⟩
  rw [← hqs]
  exact List.mem_map_of_mem hr

end Path

/-! ## Straight ways -/

namespace Disk

/-- A path from the root on, without `..`, on whose way there is no link. -/
structure Straight (d : Disk) (p : String) : Prop where
  absolute : Path.isAbsolute p = true
  noUp : ".." ∉ Path.components p
  noLink {loc : Location} (h : loc <+: Path.components p) (target : String) : d.look loc ≠ some (.link target)

/-- The way to a directory by its own names is straight. -/
theorem straight_of_dir {d : Disk} {p : String} (habsolute : Path.isAbsolute p = true)
    (hup : ".." ∉ Path.components p) (hdir : d.look (Path.components p) = some .dir) : d.Straight p := by
  refine ⟨habsolute, hup, fun {loc} hloc target hlink => ?_⟩
  obtain ⟨rest, hrest⟩ := hloc
  have hthere : d.look loc = some .dir := by
    rw [← hrest] at hdir
    cases rest with
    | nil => rwa [List.append_nil] at hdir
    | cons name rest => exact Node.look_of_append hdir
  rw [hthere] at hlink
  cases hlink

/-- What is above on a straight way is straight. -/
theorem Straight.above {d : Disk} {p q : String} (h : d.Straight p) (hq : Path.isAbsolute q = true)
    (hbelow : Path.components q <+: Path.components p) : d.Straight q :=
  ⟨hq, fun hmem => h.noUp (hbelow.subset hmem), fun hloc => h.noLink (hloc.trans hbelow)⟩

/-- The names that count. -/
def counting (ns : List String) : Location := ns.filter fun name => !Path.isSilent name.toList

theorem counting_cons_of_silent {name : String} (h : Path.isSilent name.toList = true) (ns : List String) :
    counting (name :: ns) = counting ns := List.filter_cons_of_neg (by simp [h])

theorem counting_cons {name : String} (h : Path.isSilent name.toList = false) (ns : List String) :
    counting (name :: ns) = name :: counting ns := List.filter_cons_of_pos (by simp [h])

section Straight
variable {root : Node} {links : Nat} {start loc : Location} {ns more : List String} {name : String}

/-- A silent name leads on from the same directory. -/
theorem arrives_silent_iff (hsilent : Path.isSilent name.toList = true) (hmore : more ≠ []) :
    Arrives root .visit links start (name :: more) loc ↔ Arrives root .visit links start more loc := by
  constructor
  · intro h
    cases h with
    | silent hdir hname hrest => exact hrest
    | up => cases hsilent
    | vacant _ hname | entry _ hname | follow _ hname | enter _ hname =>
      rw [hname.notSilent] at hsilent
      cases hsilent
  · intro h
    exact .silent (h.dir hmore) hsilent h

/-- A name that counts leads into the directory of this name, if no link stands there. -/
theorem arrives_loud_iff (hloud : Path.isSilent name.toList = false) (hup : name ≠ "..")
    (hmore : ¬ more.all String.isEmpty = true) (hlink : ∀ target, root.look (start ++ [name]) ≠ some (.link target)) :
    Arrives root .visit links start (name :: more) loc ↔
      name.utf8ByteSize ≤ nameLimit ∧ Arrives root .visit links (start ++ [name]) more loc := by
  constructor
  · intro h
    cases h with
    | silent _ hsilent =>
      rw [hloud] at hsilent
      cases hsilent
    | up => exact absurd rfl hup
    | vacant _ _ _ hlast => exact absurd hlast hmore
    | entry _ _ _ _ hpurpose => cases hpurpose
    | follow _ _ _ _ hthere => exact absurd hthere (hlink _)
    | enter _ hname _ _ _ hrest => exact ⟨hname.short, hrest⟩
  · rintro ⟨hshort, h⟩
    have hne : more ≠ [] := by
      rintro rfl
      exact hmore rfl
    have hdir := h.dir hne
    exact .enter (Node.look_of_append hdir) ⟨hloud, hup, hshort⟩ (fits_visit more) hdir nofun h

/-- Without `..` and links, names lead through the directories that they say, if these are short enough. -/
theorem arrives_straight_iff (hname : Named name) (hup : ".." ∉ ns)
    (hlink : ∀ l, l <+: counting ns → ∀ target, root.look (start ++ l) ≠ some (.link target)) :
    Arrives root .visit links start (ns ++ [name]) loc ↔
      (∀ n ∈ counting ns, n.utf8ByteSize ≤ nameLimit) ∧
        Arrives root .visit links (start ++ counting ns) [name] loc := by
  induction ns generalizing start with
  | nil =>
    rw [counting, List.filter_nil, List.append_nil]
    exact (and_iff_right (List.forall_mem_nil _)).symm
  | cons first ns ih =>
    obtain ⟨hfirst, hrest⟩ := not_or.1 (mt List.mem_cons.2 hup)
    have hmore : ¬ (ns ++ [name]).all String.isEmpty = true := by
      simp [hname.ne_empty]
    rw [List.cons_append]
    by_cases hsilent : Path.isSilent first.toList = true
    · rw [counting_cons_of_silent hsilent] at hlink ⊢
      rw [arrives_silent_iff hsilent (List.concat_ne_nil name ns), ih hrest hlink]
    · rw [Bool.not_eq_true] at hsilent
      rw [counting_cons hsilent] at hlink ⊢
      have hbelow : ∀ l, l <+: counting ns → ∀ target, root.look (start ++ [first] ++ l) ≠ some (.link target) := by
        intro l hl
        rw [List.append_assoc]
        exact hlink (first :: l) (List.cons_prefix_cons.2 ⟨rfl, hl⟩)
      have hthere := hlink [first] (List.cons_prefix_cons.2 ⟨rfl, List.nil_prefix⟩)
      rw [arrives_loud_iff hsilent (Ne.symm hfirst) hmore hthere, ih hrest hbelow, List.forall_mem_cons,
        List.append_assoc, List.singleton_append, and_assoc]

end Straight

/-- The directory that the path says has an entry of this name, which is the node or a link that leads to it. -/
structure HasEntry (d : Disk) (p name : String) (n : Node) : Prop where
  readable : Readable (Path.join p name)
  short : ∀ c ∈ Path.components p, c.utf8ByteSize ≤ nameLimit
  there : ∃ loc, Arrives d.root .visit linkLimit (Path.components p) [name] loc ∧ d.root.at? loc = some n

/-- There is an entry. -/
theorem HasEntry.isSome_look {d : Disk} {p name : String} {n : Node} (h : d.HasEntry p name n) (hname : Named name) :
    (d.look (Path.components p ++ [name])).isSome := by
  obtain ⟨loc, harrives, hat⟩ := h.there
  cases harrives with
  | silent _ hsilent =>
    rw [hname.notSilent] at hsilent
    cases hsilent
  | up => exact absurd rfl hname.notUp
  | vacant _ _ _ _ hnone =>
    rw [Node.look_eq_none_iff, hat] at hnone
    cases hnone
  | entry _ _ _ _ hpurpose => cases hpurpose
  | follow _ _ _ _ hlink _ => rw [look, hlink]; rfl
  | enter _ _ _ hsome _ _ => rw [look, hsome]; rfl

/-- An entry that is a file is one that the directory has. -/
theorem hasEntry_of_file {d : Disk} {p name : String} {bytes : ByteArray} (hname : Named name)
    (hreadable : Readable (Path.join p name)) (hshort : ∀ c ∈ Path.components p, c.utf8ByteSize ≤ nameLimit)
    (hfile : d.look (Path.components p ++ [name]) = some (.file bytes)) : d.HasEntry p name (.file bytes) := by
  have harrives := arrives_of_named .visit linkLimit (List.forall_mem_singleton.2 hname) hfile nofun
  exact ⟨hreadable, hshort, _, harrives, (Node.look_eq_file_iff _ _ _).1 hfile⟩

/-- On a straight way, the path of an entry leads to what the directory has under that name. -/
theorem node?_join_iff {d : Disk} {p name : String} (hp : d.Straight p) (hname : EntryName name) (n : Node) :
    d.node? (Path.join p name) = some n ↔ d.HasEntry p name n := by
  have hl : ∀ m ∈ [name], EntryName m := List.forall_mem_singleton.2 hname
  have hne : [name] ≠ [] := List.cons_ne_nil _ _
  have hjoin : Path.join p name = Location.under p [name] := by
    rw [Location.under, Text.join, String.intercalate_singleton]
  have hempty : p ≠ "" := by
    rintro rfl
    cases hp.absolute
  have hstart : d.startOf (Path.join p name) = [] := by
    rw [hjoin, startOf_under d hempty hne hl, startOf, if_pos hp.absolute]
  obtain ⟨ns, tail, hnames, htail, hunder⟩ := exists_names_under hempty
  have hcounting : Path.components p = counting ns := by
    have hsilent : counting tail = [] := List.filter_eq_nil_iff.2 fun m hm => by simp [htail m hm]
    have happend : counting (ns ++ tail) = counting ns ++ counting tail := List.filter_append _ _
    rw [hsilent, List.append_nil, ← hnames] at happend
    exact happend
  have hup : ".." ∉ ns := by
    intro hmem
    refine hp.noUp ?_
    rw [hcounting]
    exact List.mem_filter.2 ⟨hmem, by decide⟩
  have hway : ∀ loc, Arrives d.root .visit linkLimit [] (names (Path.join p name)) loc ↔
      (∀ c ∈ Path.components p, c.utf8ByteSize ≤ nameLimit) ∧
        Arrives d.root .visit linkLimit (Path.components p) [name] loc := by
    intro loc
    rw [hjoin, hunder [name] hne hl, hcounting]
    refine arrives_straight_iff hname.named hup fun l hloc => hp.noLink ?_
    rwa [hcounting]
  rw [node?_eq_some_iff]
  constructor
  · rintro ⟨loc, ⟨hreadable, -, harrives⟩, hat⟩
    rw [hstart, hway] at harrives
    exact ⟨hreadable, harrives.1, loc, harrives.2, hat⟩
  · rintro ⟨hreadable, hshort, loc, harrives, hat⟩
    refine ⟨loc, ⟨hreadable, ?_, ?_⟩, hat⟩
    · rw [hstart]
      rfl
    · rw [hstart, hway]
      exact ⟨hshort, harrives⟩

end Disk

end ScanDelta
