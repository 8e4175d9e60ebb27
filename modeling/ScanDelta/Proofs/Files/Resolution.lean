import ScanDelta.Proofs.Files.Tree

/-!
# Where paths lead

* `Disk.Arrives root purpose links start names loc` : the names lead from one location to another, link by link and name
  by name; `walk_eq_ok_iff` : `walk` finds just that;
* `Disk.targetAt root loc` : what `walk` says of the location at which it arrives;
* `Disk.resolveFor_eq_ok_iff` : the same for paths;
* `Disk.Arrives.of_grows`, `Disk.Points.of_grows` : a path that leads somewhere leads there still when the disk has
  grown;
* `Disk.Leads d p loc` : the path leads to the file at a location (`Leads.of_grows`, `Leads.unique`);
* `Disk.Plain p`, `Disk.resolveFor_of_plain` : a path from the root on leads where its names say.
-/

set_option autoImplicit false

namespace ScanDelta

namespace Disk

/-! ## Trails -/

/-- Each node of the way is a child of the one before it. -/
def Trail.Follows (root : Node) : Trail → Prop
  | [] => True
  | (name, n) :: t => Trail.Follows root t ∧ (Trail.node root t).child? name = some n

theorem Trail.location_cons (name : String) (n : Node) (t : Trail) :
    Trail.location ((name, n) :: t) = t.location ++ [name] := by
  simp [Trail.location]

theorem Trail.location_drop (t : Trail) : Trail.location (t.drop 1) = t.location.dropLast := by
  simp [Trail.location]

theorem Trail.Follows.drop {root : Node} {t : Trail} (h : Trail.Follows root t) : Trail.Follows root (t.drop 1) := by
  cases t with
  | nil => exact h
  | cons e t => exact h.1

/-- The end of a way is what stands at its location. -/
theorem Trail.Follows.at?_location {root : Node} {t : Trail} (h : Trail.Follows root t) :
    root.at? t.location = some (t.node root) := by
  induction t with
  | nil => rfl
  | cons e t ih =>
    obtain ⟨name, n⟩ := e
    rw [Trail.location_cons, Node.at?_concat, ih h.1, Option.bind_some, h.2]
    rfl

theorem Trail.Follows.look_location {root : Node} {t : Trail} (h : Trail.Follows root t) :
    root.look t.location = some (t.node root).entry := by
  rw [Node.look, h.at?_location]
  rfl

theorem Trail.Follows.look_dir {root : Node} {t : Trail} (h : Trail.Follows root t) {es : List (String × Node)}
    (hes : t.node root = .dir es) : root.look t.location = some .dir := by
  rw [h.look_location, hes]
  rfl

theorem Trail.Follows.at?_concat {root : Node} {t : Trail} (h : Trail.Follows root t) (name : String) :
    root.at? (t.location ++ [name]) = (t.node root).child? name := by
  rw [Node.at?_concat, h.at?_location, Option.bind_some]

/-- A link to an absolute path begins anew. -/
theorem Trail.Follows.restart {root : Node} {t : Trail} (h : Trail.Follows root t) (target : String) :
    Trail.Follows root (if Path.isAbsolute target then [] else t) := by
  split
  · trivial
  · exact h

theorem Trail.location_restart (t : Trail) (target : String) :
    (if Path.isAbsolute target then [] else t : Trail).location = if Path.isAbsolute target then [] else t.location := by
  split <;> rfl

theorem Trail.along?_eq_some {root : Node} {t here : Trail} (h : Trail.Follows root t) {loc : Location}
    (hh : Trail.along? root t loc = some here) : Trail.Follows root here ∧ here.location = t.location ++ loc := by
  induction loc generalizing t with
  | nil =>
    cases hh
    exact ⟨h, (List.append_nil _).symm⟩
  | cons name rest ih =>
    obtain ⟨n, hn, hrest⟩ := Option.bind_eq_some_iff.1 hh
    obtain ⟨hf, hl⟩ := @ih ((name, n) :: t) ⟨h, hn⟩ hrest
    refine ⟨hf, ?_⟩
    rw [hl, Trail.location_cons, List.append_assoc, List.singleton_append]

theorem Trail.isSome_along? {root : Node} {t : Trail} (loc : Location) :
    (Trail.along? root t loc).isSome = ((t.node root).at? loc).isSome := by
  induction loc generalizing t with
  | nil => rfl
  | cons name rest ih =>
    rw [Trail.along?, Node.at?_cons]
    cases (t.node root).child? name with
    | none => rfl
    | some n => exact ih

/-- There is a way from the root to wherever something stands. -/
theorem Trail.exists_along?_iff (root : Node) (loc : Location) :
    (∃ here, Trail.along? root [] loc = some here) ↔ (root.look loc).isSome := by
  have h := @Trail.isSome_along? root [] loc
  rw [← Option.isSome_iff_exists, h, Node.look, Option.isSome_map]
  rfl

/-! ## From location to location -/

/-- A name that is looked up in a directory. -/
structure Named (name : String) : Prop where
  notSilent : Path.isSilent name.toList = false
  notUp : name ≠ ".."
  short : name.utf8ByteSize ≤ nameLimit

theorem named_of_not {name : String} (hsilent : ¬ Path.isSilent name.toList = true) (hup : ¬ name = "..")
    (hshort : ¬ nameLimit < name.utf8ByteSize) : Named name := by
  refine ⟨?_, hup, ?_⟩
  · simpa using hsilent
  · omega

/-- No slash stands behind the last name of a path to a file. -/
def Fits (purpose : Purpose) (rest : List String) : Prop :=
  purpose = .file → rest.all String.isEmpty = true → rest = []

/-- The names lead from a location to another one, at which there may be nothing. The number bounds the links. -/
inductive Arrives (root : Node) (purpose : Purpose) : Nat → Location → List String → Location → Prop
  | here (links : Nat) (start : Location) : Arrives root purpose links start [] start
  | silent {links : Nat} {start loc : Location} {name : String} {rest : List String}
    (hdir : root.look start = some .dir) (hname : Path.isSilent name.toList = true)
    (hrest : Arrives root purpose links start rest loc) : Arrives root purpose links start (name :: rest) loc
  | up {links : Nat} {start loc : Location} {rest : List String} (hdir : root.look start = some .dir)
    (hrest : Arrives root purpose links start.dropLast rest loc) : Arrives root purpose links start (".." :: rest) loc
  | vacant {links : Nat} {start : Location} {name : String} {rest : List String} (hdir : root.look start = some .dir)
    (hname : Named name) (hfits : Fits purpose rest) (hlast : rest.all String.isEmpty = true)
    (hnone : root.look (start ++ [name]) = none) : Arrives root purpose links start (name :: rest) (start ++ [name])
  | entry {links : Nat} {start : Location} {name target : String} {rest : List String}
    (hdir : root.look start = some .dir) (hname : Named name) (hfits : Fits purpose rest)
    (hlast : rest.all String.isEmpty = true) (hpurpose : purpose = .entry)
    (hlink : root.look (start ++ [name]) = some (.link target)) :
    Arrives root purpose links start (name :: rest) (start ++ [name])
  | follow {links : Nat} {start loc : Location} {name target : String} {rest : List String}
    (hdir : root.look start = some .dir) (hname : Named name) (hfits : Fits purpose rest)
    (hgo : ¬ (rest.all String.isEmpty = true ∧ purpose = .entry))
    (hlink : root.look (start ++ [name]) = some (.link target))
    (hrest : Arrives root purpose links (if Path.isAbsolute target then [] else start) (names target ++ rest) loc) :
    Arrives root purpose (links + 1) start (name :: rest) loc
  | enter {links : Nat} {start loc : Location} {name : String} {rest : List String} {e : Node.Entry}
    (hdir : root.look start = some .dir) (hname : Named name) (hfits : Fits purpose rest)
    (hsome : root.look (start ++ [name]) = some e) (hnode : ∀ target, e ≠ .link target)
    (hrest : Arrives root purpose links (start ++ [name]) rest loc) :
    Arrives root purpose links start (name :: rest) loc

/-- What is said of the location at which a walk arrives. -/
def targetAt (root : Node) (loc : Location) : Target :=
  match root.at? loc with
  | some n => .present loc n
  | none => .vacant loc

theorem targetAt_of_at? {root n : Node} {loc : Location} (h : root.at? loc = some n) :
    targetAt root loc = .present loc n := by
  rw [targetAt, h]

theorem targetAt_of_look {root : Node} {loc : Location} (h : root.look loc = none) :
    targetAt root loc = .vacant loc := by
  rw [targetAt, (Node.look_eq_none_iff root loc).1 h]

theorem fits_iff (purpose : Purpose) (rest : List String) :
    Fits purpose rest ↔ ¬ (decide (purpose = .file) && rest.all String.isEmpty && !rest.isEmpty) = true := by
  unfold Fits
  cases rest with
  | nil => simp
  | cons name rest => simp

/-- What a walk finds is where the names lead. -/
theorem arrives_of_walk {root : Node} {purpose : Purpose} {links : Nat} {here : Trail} {names : List String}
    {t : Target} (hf : Trail.Follows root here) (h : walk root purpose links here names = .ok t) :
    ∃ loc, Arrives root purpose links here.location names loc ∧ t = targetAt root loc := by
  fun_induction walk root purpose links here names with
  | case1 links here =>
    cases h
    exact ⟨_, .here _ _, (targetAt_of_at? hf.at?_location).symm⟩
  | case2 links here name rest es hes hsilent ih =>
    obtain ⟨loc, hloc, ht⟩ := ih hf h
    have hdir := hf.look_dir hes
    exact ⟨loc, .silent hdir hsilent hloc, ht⟩
  | case3 links here rest es hes hsilent ih =>
    obtain ⟨loc, hloc, ht⟩ := ih hf.drop h
    have hdir := hf.look_dir hes
    rw [Trail.location_drop] at hloc
    exact ⟨loc, .up hdir hloc, ht⟩
  | case4 | case5 | case7 | case9 | case12 => cases h
  | case6 links here name rest es hes isLast hsilent hup hfits hshort hchild hlast =>
    cases h
    have hdir := hf.look_dir hes
    have hnone : root.look (here.location ++ [name]) = none := by
      rw [Node.look_eq_none_iff, hf.at?_concat, hchild]
    have hname := named_of_not hsilent hup hshort
    exact ⟨_, .vacant hdir hname ((fits_iff purpose rest).2 hfits) hlast hnone, (targetAt_of_look hnone).symm⟩
  | case8 links here name rest es hes isLast hsilent hup hfits hshort target hchild hentry =>
    cases h
    have hdir := hf.look_dir hes
    have hat : root.at? (here.location ++ [name]) = some (.link target) := by rw [hf.at?_concat, hchild]
    have hname := named_of_not hsilent hup hshort
    obtain ⟨hlast, hpurpose⟩ := Bool.and_eq_true_iff.1 hentry
    exact ⟨_, .entry hdir hname ((fits_iff purpose rest).2 hfits) hlast (of_decide_eq_true hpurpose)
      ((Node.look_eq_link_iff _ _ _).2 hat), (targetAt_of_at? hat).symm⟩
  | case10 here name rest es hes isLast hsilent hup hfits hshort target hchild hgo links ih =>
    obtain ⟨loc, hloc, ht⟩ := ih (hf.restart target) h
    have hdir := hf.look_dir hes
    have hat : root.at? (here.location ++ [name]) = some (.link target) := by rw [hf.at?_concat, hchild]
    have hname := named_of_not hsilent hup hshort
    rw [dite_eq_ite, Trail.location_restart] at hloc
    refine ⟨loc, .follow hdir hname ((fits_iff purpose rest).2 hfits) ?_ ((Node.look_eq_link_iff _ _ _).2 hat) hloc, ht⟩
    rintro ⟨hlast, hpurpose⟩
    exact hgo (Bool.and_eq_true_iff.2 ⟨hlast, decide_eq_true hpurpose⟩)
  | case11 links here name rest es hes isLast hsilent hup hfits hshort n hnode hchild ih =>
    obtain ⟨loc, hloc, ht⟩ := ih ⟨hf, hchild⟩ h
    have hdir := hf.look_dir hes
    have hsome : root.look (here.location ++ [name]) = some n.entry := by
      rw [Node.look, hf.at?_concat, hchild]
      rfl
    have hname := named_of_not hsilent hup hshort
    rw [Trail.location_cons] at hloc
    refine ⟨loc, .enter hdir hname ((fits_iff purpose rest).2 hfits) hsome ?_ hloc, ht⟩
    intro target
    rw [ne_eq, Node.entry_eq_link_iff]
    exact hnode target

/-- A walk at a name that is looked up. -/
theorem walk_named {root : Node} {purpose : Purpose} {links : Nat} {here : Trail} {name : String} {rest : List String}
    {es : List (String × Node)} (hes : here.node root = .dir es) (hname : Named name) (hfits : Fits purpose rest) :
    walk root purpose links here (name :: rest) =
      match (here.node root).child? name with
      | none => if rest.all String.isEmpty then .ok (.vacant (here.location ++ [name])) else .error .noEntry
      | some (.link target) =>
        if rest.all String.isEmpty && purpose = .entry then .ok (.present (here.location ++ [name]) (.link target))
        else
          match links with
          | 0 => .error .tooManyLinks
          | links + 1 =>
            walk root purpose links (if Path.isAbsolute target then [] else here) (names target ++ rest)
      | some n => walk root purpose links ((name, n) :: here) rest := by
  have hshort := Nat.not_lt.2 hname.short
  have hslash := (fits_iff purpose rest).1 hfits
  rw [walk, hes]
  simp only [hname.notSilent, hname.notUp, if_false, Bool.false_eq_true]
  exact (if_neg hslash).trans (if_neg hshort)

/-- Where the names lead, a walk finds what stands there. -/
theorem walk_of_arrives {root : Node} {purpose : Purpose} {links : Nat} {start loc : Location} {names : List String}
    (h : Arrives root purpose links start names loc) {here : Trail} (hf : Trail.Follows root here)
    (hstart : here.location = start) : walk root purpose links here names = .ok (targetAt root loc) := by
  -- every step begins in a directory
  have hnode : ∀ {t : Trail}, Trail.Follows root t → root.look t.location = some .dir → ∃ es, t.node root = .dir es := by
    intro t ht hdir
    obtain ⟨es, hes⟩ := (Node.look_eq_dir_iff root _).1 hdir
    rw [ht.at?_location] at hes
    exact ⟨es, Option.some.inj hes⟩
  induction h generalizing here with
  | here links start =>
    subst hstart
    rw [walk, targetAt_of_at? hf.at?_location]
  | silent hdir hname hrest ih =>
    subst hstart
    obtain ⟨es, hes⟩ := hnode hf hdir
    rw [walk, hes]
    simp only [hname, if_true]
    exact ih hf rfl
  | up hdir hrest ih =>
    subst hstart
    obtain ⟨es, hes⟩ := hnode hf hdir
    have hsilent : Path.isSilent "..".toList = false := by decide
    rw [walk, hes]
    simp only [hsilent, if_true, Bool.false_eq_true, if_false]
    exact ih hf.drop (Trail.location_drop here)
  | vacant hdir hname hfits hlast hnone =>
    subst hstart
    obtain ⟨es, hes⟩ := hnode hf hdir
    have hchild := (Node.look_eq_none_iff _ _).1 hnone
    rw [hf.at?_concat] at hchild
    rw [walk_named hes hname hfits, hchild, targetAt_of_look hnone]
    dsimp only
    rw [if_pos hlast]
  | entry hdir hname hfits hlast hpurpose hlink =>
    subst hstart
    obtain ⟨es, hes⟩ := hnode hf hdir
    have hat := (Node.look_eq_link_iff _ _ _).1 hlink
    rw [targetAt_of_at? hat]
    rw [hf.at?_concat] at hat
    rw [walk_named hes hname hfits, hat]
    dsimp only
    rw [if_pos (by simp [hlast, hpurpose])]
  | follow hdir hname hfits hgo hlink hrest ih =>
    subst hstart
    obtain ⟨es, hes⟩ := hnode hf hdir
    have hat := (Node.look_eq_link_iff _ _ _).1 hlink
    rw [hf.at?_concat] at hat
    rw [walk_named hes hname hfits, hat]
    dsimp only
    rw [if_neg (by simpa using hgo)]
    exact ih (hf.restart _) (Trail.location_restart here _)
  | @enter links start loc name rest e hdir hname hfits hsome hlink hrest ih =>
    subst hstart
    obtain ⟨es, hes⟩ := hnode hf hdir
    obtain ⟨n, hat, he⟩ := Option.map_eq_some_iff.1 hsome
    rw [hf.at?_concat] at hat
    have hnext := @ih ((name, n) :: here) ⟨hf, hat⟩ (Trail.location_cons name n here)
    rw [walk_named hes hname hfits, hat]
    cases n with
    | file bytes => exact hnext
    | dir entries => exact hnext
    | link target => exact absurd he.symm (hlink target)

/-- **A walk finds where the names lead**, and what stands there. -/
theorem walk_eq_ok_iff {root : Node} {purpose : Purpose} {links : Nat} {here : Trail} (hf : Trail.Follows root here)
    (names : List String) (t : Target) : walk root purpose links here names = .ok t ↔
      ∃ loc, Arrives root purpose links here.location names loc ∧ t = targetAt root loc := by
  refine ⟨arrives_of_walk hf, ?_⟩
  rintro ⟨loc, hloc, rfl⟩
  exact walk_of_arrives hloc hf rfl

/-! ## Paths -/

/-- A path that can be looked up at all. -/
structure Readable (p : String) : Prop where
  nul : containsNul p = false
  short : p.utf8ByteSize ≤ pathLimit
  notEmpty : p.isEmpty = false

/-- Where the way of a path begins. -/
def startOf (d : Disk) (p : String) : Location := if Path.isAbsolute p then [] else d.cwd

/-- The path leads to a location, at which there may be nothing. -/
structure Points (d : Disk) (purpose : Purpose) (p : String) (loc : Location) : Prop where
  readable : Readable p
  start : (d.look (d.startOf p)).isSome
  arrives : Arrives d.root purpose linkLimit (d.startOf p) (names p) loc

theorem resolveFor_eq_ok_iff (d : Disk) (purpose : Purpose) (p : String) (t : Target) :
    d.resolveFor purpose p = .ok t ↔ ∃ loc, d.Points purpose p loc ∧ t = targetAt d.root loc := by
  have hway := Trail.exists_along?_iff d.root (d.startOf p)
  have hroot : Trail.Follows d.root [] := trivial
  rw [resolveFor]
  constructor
  · intro h
    split at h
    · cases h
    split at h
    · cases h
    split at h
    · cases h
    rename_i hnul hshort hempty
    have hreadable : Readable p := ⟨by simpa using hnul, by omega, by simpa using hempty⟩
    split at h
    · rename_i here hhere
      obtain ⟨hf, hl⟩ := Trail.along?_eq_some hroot hhere
      obtain ⟨loc, hloc, ht⟩ := (walk_eq_ok_iff hf _ _).1 h
      rw [hl] at hloc
      exact ⟨loc, ⟨hreadable, hway.1 ⟨here, hhere⟩, hloc⟩, ht⟩
    · cases h
  · rintro ⟨loc, ⟨⟨hnul, hshort, hempty⟩, hstart, hloc⟩, rfl⟩
    obtain ⟨here, hhere⟩ := hway.2 hstart
    obtain ⟨hf, hl⟩ := Trail.along?_eq_some hroot hhere
    rw [startOf] at hhere
    rw [hnul, if_neg Bool.false_ne_true, if_neg (by omega), hempty, if_neg Bool.false_ne_true, hhere]
    exact (walk_eq_ok_iff hf _ _).2 ⟨loc, hl ▸ hloc, rfl⟩

theorem targetAt_eq_present_iff (root n : Node) (loc loc' : Location) :
    Target.present loc n = targetAt root loc' ↔ loc = loc' ∧ root.at? loc = some n := by
  rw [targetAt]
  constructor
  · intro h
    split at h
    · rename_i hn
      cases h
      exact ⟨rfl, hn⟩
    · cases h
  · rintro ⟨rfl, h⟩
    rw [h]

theorem targetAt_eq_vacant_iff (root : Node) (loc loc' : Location) :
    Target.vacant loc = targetAt root loc' ↔ loc = loc' ∧ root.look loc = none := by
  rw [targetAt, Node.look_eq_none_iff]
  constructor
  · intro h
    split at h
    · cases h
    · rename_i hn
      cases h
      exact ⟨rfl, hn⟩
  · rintro ⟨rfl, h⟩
    rw [h]

theorem resolveFor_eq_present_iff (d : Disk) (purpose : Purpose) (p : String) (loc : Location) (n : Node) :
    d.resolveFor purpose p = .ok (.present loc n) ↔ d.Points purpose p loc ∧ d.root.at? loc = some n := by
  rw [resolveFor_eq_ok_iff]
  simp only [targetAt_eq_present_iff]
  constructor
  · rintro ⟨loc', hp, rfl, hn⟩
    exact ⟨hp, hn⟩
  · rintro ⟨hp, hn⟩
    exact ⟨loc, hp, rfl, hn⟩

theorem resolveFor_eq_vacant_iff (d : Disk) (purpose : Purpose) (p : String) (loc : Location) :
    d.resolveFor purpose p = .ok (.vacant loc) ↔ d.Points purpose p loc ∧ d.look loc = none := by
  rw [resolveFor_eq_ok_iff]
  simp only [targetAt_eq_vacant_iff]
  constructor
  · rintro ⟨loc', hp, rfl, hn⟩
    exact ⟨hp, hn⟩
  · rintro ⟨hp, hn⟩
    exact ⟨loc, hp, rfl, hn⟩

/-- A location that names lead to is in a directory, even if nothing stands there. -/
theorem Arrives.parent {root : Node} {purpose : Purpose} {links : Nat} {start loc : Location} {names : List String}
    (h : Arrives root purpose links start names loc) (hstart : (root.look start).isSome) (hne : loc ≠ []) :
    root.look loc.dropLast = some .dir := by
  induction h with
  | here links start =>
    obtain ⟨e, he⟩ := Option.isSome_iff_exists.1 hstart
    exact Node.look_dropLast he hne
  | silent hdir hname hrest ih => exact ih hstart hne
  | @up links start loc rest hdir hrest ih =>
    refine ih ?_ hne
    by_cases hnil : start = []
    · rw [hnil]
      rfl
    · rw [Node.look_dropLast hdir hnil]
      rfl
  | vacant hdir | entry hdir => rwa [List.dropLast_concat]
  | follow hdir hname hfits hgo hlink hrest ih =>
    refine ih ?_ hne
    split
    · rfl
    · exact hstart
  | enter hdir hname hfits hsome hnode hrest ih =>
    refine ih ?_ hne
    rw [hsome]
    rfl

theorem Points.parent {d : Disk} {purpose : Purpose} {p : String} {loc : Location} (h : d.Points purpose p loc)
    (hne : loc ≠ []) : d.look loc.dropLast = some .dir :=
  h.arrives.parent h.start hne

/-! ## Paths on a disk that has grown -/

/-- The names lead on a grown disk where they led before, also if a file has been made there. -/
theorem Arrives.of_grows {d d' : Disk} (hg : Grows d d') {purpose : Purpose} {links : Nat} {start loc : Location}
    {names : List String} (h : Arrives d.root purpose links start names loc)
    (hend : d.look loc = none → d'.look loc = none ∨ purpose = .file ∧ ∃ bytes, d'.look loc = some (.file bytes)) :
    Arrives d'.root purpose links start names loc := by
  induction h with
  | here links start => exact .here links start
  | silent hdir hname hrest ih => exact .silent (hg.dir hdir) hname (ih hend)
  | up hdir hrest ih => exact .up (hg.dir hdir) (ih hend)
  | vacant hdir hname hfits hlast hnone =>
    rcases hend hnone with hnone' | ⟨hpurpose, bytes, hfile⟩
    · exact .vacant (hg.dir hdir) hname hfits hlast hnone'
    · rw [hfits hpurpose hlast]
      exact .enter (hg.dir hdir) hname (fun _ _ => rfl) hfile nofun (.here _ _)
  | entry hdir hname hfits hlast hpurpose hlink =>
    exact .entry (hg.dir hdir) hname hfits hlast hpurpose (hg.link hlink)
  | follow hdir hname hfits hgo hlink hrest ih =>
    exact .follow (hg.dir hdir) hname hfits hgo (hg.link hlink) (ih hend)
  | @enter links start loc name rest e hdir hname hfits hsome hnode hrest ih =>
    cases e with
    | dir => exact .enter (hg.dir hdir) hname hfits (hg.dir hsome) hnode (ih hend)
    | file bytes =>
      obtain ⟨bytes', hfile⟩ := hg.file hsome
      exact .enter (hg.dir hdir) hname hfits hfile nofun (ih hend)
    | link target => exact absurd rfl (hnode target)

theorem Grows.isSome_look {d d' : Disk} (hg : Grows d d') {loc : Location} (h : (d.look loc).isSome) :
    (d'.look loc).isSome := by
  obtain ⟨e, he⟩ := Option.isSome_iff_exists.1 h
  cases e with
  | dir => rw [hg.dir he]; rfl
  | link target => rw [hg.link he]; rfl
  | file bytes =>
    obtain ⟨bytes', hfile⟩ := hg.file he
    rw [hfile]
    rfl

theorem Points.of_grows {d d' : Disk} (hg : Grows d d') {purpose : Purpose} {p : String} {loc : Location}
    (h : d.Points purpose p loc)
    (hend : d.look loc = none → d'.look loc = none ∨ purpose = .file ∧ ∃ bytes, d'.look loc = some (.file bytes)) :
    d'.Points purpose p loc := by
  have hstart : d'.startOf p = d.startOf p := by rw [startOf, startOf, hg.cwd]
  refine ⟨h.readable, ?_, ?_⟩
  · rw [hstart]
    exact hg.isSome_look h.start
  · rw [hstart]
    exact h.arrives.of_grows hg hend

/-! ## Paths to files -/

/-- The path leads to the file at a location. -/
def Leads (d : Disk) (p : String) (loc : Location) : Prop :=
  ∃ bytes, d.resolveFor .file p = .ok (.present loc (.file bytes))

theorem leads_iff (d : Disk) (p : String) (loc : Location) :
    d.Leads p loc ↔ d.Points .file p loc ∧ ∃ bytes, d.look loc = some (.file bytes) := by
  rw [Leads]
  simp only [resolveFor_eq_present_iff, look, Node.look_eq_file_iff, exists_and_left]

theorem Leads.unique {d : Disk} {p : String} {loc loc' : Location} (h : d.Leads p loc) (h' : d.Leads p loc') :
    loc = loc' := by
  obtain ⟨bytes, h⟩ := h
  obtain ⟨bytes', h'⟩ := h'
  rw [h] at h'
  cases h'
  rfl

theorem Leads.of_grows {d d' : Disk} (hg : Grows d d') {p : String} {loc : Location} (h : d.Leads p loc) :
    d'.Leads p loc := by
  obtain ⟨hp, bytes, hfile⟩ := (leads_iff d p loc).1 h
  refine (leads_iff d' p loc).2 ⟨hp.of_grows hg fun hnone => ?_, hg.file hfile⟩
  rw [hfile] at hnone
  cases hnone

/-! ## Plain paths -/

instance (name : String) : Decidable (Named name) :=
  decidable_of_iff (Path.isSilent name.toList = false ∧ name ≠ ".." ∧ name.utf8ByteSize ≤ nameLimit)
    ⟨fun h => ⟨h.1, h.2.1, h.2.2⟩, fun h => ⟨h.notSilent, h.notUp, h.short⟩⟩

/-- A path from the root on, name by name. -/
structure Plain (p : String) : Prop where
  readable : Readable p
  absolute : Path.isAbsolute p = true
  named : ∀ name ∈ names p, Named name

instance (p : String) : Decidable (Plain p) :=
  decidable_of_iff ((containsNul p = false ∧ p.utf8ByteSize ≤ pathLimit ∧ p.isEmpty = false) ∧
      Path.isAbsolute p = true ∧ ∀ name ∈ names p, Named name)
    ⟨fun h => ⟨⟨h.1.1, h.1.2.1, h.1.2.2⟩, h.2.1, h.2.2⟩,
      fun h => ⟨⟨h.readable.nul, h.readable.short, h.readable.notEmpty⟩, h.absolute, h.named⟩⟩

theorem Named.ne_empty {name : String} (h : Named name) : name ≠ "" := by
  rintro rfl
  have hsilent := h.notSilent
  cases hsilent

theorem fits_of_named {rest : List String} (h : ∀ name ∈ rest, Named name) (purpose : Purpose) : Fits purpose rest := by
  intro _ hall
  cases rest with
  | nil => rfl
  | cons name rest =>
    rw [List.all_cons, Bool.and_eq_true] at hall
    exact absurd (String.isEmpty_iff.1 hall.1) (h name List.mem_cons_self).ne_empty

/-- Plain names lead where they say, if no link stands there. -/
theorem arrives_of_named {root : Node} (purpose : Purpose) (links : Nat) {start : Location} {ns : List String}
    (hns : ∀ name ∈ ns, Named name) {e : Node.Entry} (he : root.look (start ++ ns) = some e)
    (hlink : ∀ target, e ≠ .link target) : Arrives root purpose links start ns (start ++ ns) := by
  induction ns generalizing start with
  | nil =>
    rw [List.append_nil]
    exact .here links start
  | cons name rest ih =>
    have hmore : ∀ n ∈ rest, Named n := fun n hn => hns n (List.mem_cons_of_mem _ hn)
    have hdir := Node.look_of_append he
    rw [List.append_cons] at he ⊢
    have hrest := ih hmore he
    cases rest with
    | nil =>
      rw [List.append_nil] at he hrest ⊢
      exact .enter hdir (hns name List.mem_cons_self) (fits_of_named hmore purpose) he hlink hrest
    | cons second more =>
      exact .enter hdir (hns name List.mem_cons_self) (fits_of_named hmore purpose) (Node.look_of_append he) nofun hrest

/-- A plain path leads where its names say. -/
theorem resolveFor_of_plain {d : Disk} (purpose : Purpose) {p : String} (hp : Plain p) {n : Node}
    (hn : d.root.at? (names p) = some n) (hlink : ∀ target, n ≠ .link target) :
    d.resolveFor purpose p = .ok (.present (names p) n) := by
  have hstart : d.startOf p = [] := by rw [startOf, if_pos hp.absolute]
  have hlook : d.root.look ([] ++ names p) = some n.entry := by
    rw [List.nil_append, Node.look, hn]
    rfl
  have hentry : ∀ target, n.entry ≠ .link target := by
    intro target
    rw [ne_eq, Node.entry_eq_link_iff]
    exact hlink target
  have harrives := arrives_of_named purpose linkLimit hp.named hlook hentry
  refine (resolveFor_eq_present_iff d purpose p _ n).2 ⟨⟨hp.readable, ?_, ?_⟩, hn⟩
  · rw [hstart]
    rfl
  · rw [hstart]
    exact harrives

theorem node?_of_plain {d : Disk} {p : String} (hp : Plain p) {n : Node} (hn : d.root.at? (names p) = some n)
    (hlink : ∀ target, n ≠ .link target) : d.node? p = some n := by
  rw [node?, resolve, resolveFor_of_plain .visit hp hn hlink]

theorem resolveFor_of_fileAt {d : Disk} (purpose : Purpose) {p : String} (hp : Plain p) {bytes : ByteArray}
    (h : d.fileAt (names p) = some bytes) : d.resolveFor purpose p = .ok (.present (names p) (.file bytes)) := by
  have hat := (Node.look_eq_file_iff _ _ _).1 ((fileAt_eq_some_iff _ _ _).1 h)
  exact resolveFor_of_plain purpose hp hat fun target => by simp

theorem leads_of_fileAt {d : Disk} {p : String} (hp : Plain p) {bytes : ByteArray}
    (h : d.fileAt (names p) = some bytes) : d.Leads p (names p) :=
  ⟨bytes, resolveFor_of_fileAt .file hp h⟩

end Disk

end ScanDelta
