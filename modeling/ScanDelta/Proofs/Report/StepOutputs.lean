import ScanDelta.Proofs.Report.Reading
import ScanDelta.Report.StepOutputs

/-!
# Step outputs read back

* `entryOf? line` : key and value of a line, before and after its first equals sign; `entryOf?_eq_some_iff` : no line but
  `entryLine` of them;
* `readEntries? s` : the entries of a text, if every line is one;
* `StepOutputs.text_eq` : outputs are the lines of their entries;
* `readEntries?_text_iff` : they are read back exactly if no value is broken;
* `outputs_read_back` : what is read of them, for all alerts and paths.
-/

set_option autoImplicit false

namespace ScanDelta.Report

/-! ## Entries -/

/-- Key and value, before and after the first equals sign. -/
def entryOf? (line : String) : Option (String × String) :=
  (Text.splitFirst '=' line.toList).map fun (key, value) => (String.ofList key, String.ofList value)

/-- The entries of a text; nothing if some line is not an entry. -/
def readEntries? (s : String) : Option (List (String × String)) := (readLines s).mapM entryOf?

def entryLine (e : String × String) : String := e.1 ++ "=" ++ e.2

theorem entryOf?_eq_some_iff (line : String) (e : String × String) :
    entryOf? line = some e ↔ line = entryLine e ∧ '=' ∉ e.1.toList := by
  rw [entryOf?, Option.map_eq_some_iff]
  constructor
  · rintro ⟨⟨key, value⟩, hsplit, rfl⟩
    obtain ⟨hline, hkey⟩ := (Text.splitFirst_eq_some_iff '=' _ key value).1 hsplit
    refine ⟨String.toList_injective ?_, by simpa using hkey⟩
    simp [entryLine, hline]
  · rintro ⟨rfl, hkey⟩
    refine ⟨(e.1.toList, e.2.toList), (Text.splitFirst_eq_some_iff '=' _ _ _).2 ⟨?_, hkey⟩, ?_⟩
    · simp [entryLine]
    · simp

/-- Lines are read as entries exactly if they are the lines of these. -/
theorem mapM_entryOf?_eq_some_iff {es : List (String × String)} (h : ∀ e ∈ es, '=' ∉ e.1.toList) (ls : List String) :
    ls.mapM entryOf? = some es ↔ ls = es.map entryLine := by
  induction ls generalizing es with
  | nil => cases es <;> simp
  | cons l ls ih =>
    rw [List.mapM_cons]
    cases es with
    | nil => simp [Option.bind_eq_some_iff]
    | cons e es =>
      obtain ⟨he, hes⟩ := List.forall_mem_cons.1 h
      simp [Option.bind_eq_some_iff, entryOf?_eq_some_iff, ih hes, he]

/-! ## Outputs -/

namespace StepOutputs
variable (o : StepOutputs)

/-- The entries whose values are not paths. -/
def counted : List (String × String) :=
  [("new_alerts", boolText (!o.new.isEmpty)), ("alert_count", natText o.new.length),
    ("fixed_alerts", boolText (!o.fixed.isEmpty)), ("fixed_count", natText o.fixed.length)]

theorem entries_eq :
    o.entries = o.counted ++ [("comment_path", o.reportPath.getD ""), ("log_path", o.logPath.getD "")] := rfl

theorem text_eq : o.text = textOf (o.entries.map entryLine) := by
  rw [text, textOf, List.map_map]
  rfl

/-- No key has an equals sign or breaks its line. -/
theorem keys_of_entries : ∀ e ∈ o.entries, '=' ∉ e.1.toList ∧ Unbroken (e.1 ++ "=") := by
  have hkeys : ∀ key ∈ o.entries.map (·.1), '=' ∉ key.toList ∧ Unbroken (key ++ "=") := by
    show ∀ key ∈ ["new_alerts", "alert_count", "fixed_alerts", "fixed_count", "comment_path", "log_path"], _
    decide
  exact List.forall_mem_map.1 hkeys

theorem unbroken_entryLine_iff {e : String × String} (h : e ∈ o.entries) : Unbroken (entryLine e) ↔ Unbroken e.2 :=
  unbroken_append_iff (o.keys_of_entries e h).2 e.2

theorem unbroken_counted : ∀ e ∈ o.counted, Unbroken e.2 := by
  have hbool : ∀ b, Unbroken (boolText b) := by decide
  have hnat : ∀ n, Unbroken (natText n) := fun n => unbroken_of_breaksIn (breaksIn_natText n)
  simp [counted, hbool, hnat]

theorem readEntries?_text_iff : readEntries? o.text = some o.entries ↔ ∀ e ∈ o.entries, Unbroken e.2 := by
  rw [readEntries?, mapM_entryOf?_eq_some_iff fun e he => (o.keys_of_entries e he).1, text_eq, readLines_textOf_eq_iff,
    List.forall_mem_map]
  exact forall₂_congr fun e he => o.unbroken_entryLine_iff he

theorem readLines_text : readLines o.text = o.counted.map entryLine ++
    piecesOf (entryLine ("comment_path", o.reportPath.getD "")) ++ piecesOf (entryLine ("log_path", o.logPath.getD "")) := by
  have hcounted : readLines (textOf (o.counted.map entryLine)) = o.counted.map entryLine := by
    refine (readLines_textOf_eq_iff _).2 (List.forall_mem_map.2 fun e he => ?_)
    exact (o.unbroken_entryLine_iff (List.mem_append_left _ he)).2 (o.unbroken_counted e he)
  rw [text_eq, entries_eq, List.map_append, readLines_textOf_append, hcounted, readLines_textOf, List.append_assoc]
  simp

theorem length_readLines_text :
    (readLines o.text).length = 6 + feeds (o.reportPath.getD "") + feeds (o.logPath.getD "") := by
  have hcomment : feeds "comment_path" = 0 := by decide
  have hlog : feeds "log_path" = 0 := by decide
  have hsign : feeds "=" = 0 := by decide
  have hcounted : (o.counted.map entryLine).length = 4 := rfl
  rw [readLines_text, List.length_append, List.length_append, hcounted, length_piecesOf, length_piecesOf]
  simp only [entryLine, feeds_append, hcomment, hlog, hsign]
  omega

end StepOutputs

/-- **The outputs are read back exactly if no path breaks its line**, and then entry by entry as they are. Whatever the paths
are, the lines before theirs are read as they were written, and each line feed in a path makes one more line. -/
theorem outputs_read_back (o : StepOutputs) :
    (readEntries? o.text = some
        [("new_alerts", StepOutputs.boolText (!o.new.isEmpty)), ("alert_count", natText o.new.length),
          ("fixed_alerts", StepOutputs.boolText (!o.fixed.isEmpty)), ("fixed_count", natText o.fixed.length),
          ("comment_path", o.reportPath.getD ""), ("log_path", o.logPath.getD "")] ↔
      Unbroken (o.reportPath.getD "") ∧ Unbroken (o.logPath.getD "")) ∧
    readLines o.text = o.counted.map entryLine ++ piecesOf (entryLine ("comment_path", o.reportPath.getD "")) ++
      piecesOf (entryLine ("log_path", o.logPath.getD "")) ∧
    (readLines o.text).length = 6 + feeds (o.reportPath.getD "") + feeds (o.logPath.getD "") := by
  refine ⟨?_, o.readLines_text, o.length_readLines_text⟩
  show readEntries? o.text = some o.entries ↔ _
  rw [o.readEntries?_text_iff, o.entries_eq, List.forall_mem_append, and_iff_right o.unbroken_counted]
  simp

/-- Outputs with one new alert and a path of two lines, the second of them an entry. -/
def twoLinePath : StepOutputs where
  new := [⟨none, none, "R", .error, "m", "l", none, none, none, none, none⟩]
  fixed := []
  reportPath := some "r.md\nalert_count=0"
  logPath := none

/-- The second line of the path is read as another count of the new alerts. -/
theorem readEntries?_twoLinePath :
    readEntries? twoLinePath.text = some
        [("new_alerts", "true"), ("alert_count", "1"), ("fixed_alerts", "false"), ("fixed_count", "0"),
          ("comment_path", "r.md"), ("alert_count", "0"), ("log_path", "")] ∧
      ¬∀ o : StepOutputs, readEntries? o.text = some
        [("new_alerts", StepOutputs.boolText (!o.new.isEmpty)), ("alert_count", natText o.new.length),
          ("fixed_alerts", StepOutputs.boolText (!o.fixed.isEmpty)), ("fixed_count", natText o.fixed.length),
          ("comment_path", o.reportPath.getD ""), ("log_path", o.logPath.getD "")] := by
  refine ⟨by decide +kernel, fun h => ?_⟩
  have hmem : ("comment_path", "r.md\nalert_count=0") ∈ twoLinePath.entries :=
    List.mem_append_right twoLinePath.counted List.mem_cons_self
  exact (twoLinePath.readEntries?_text_iff.1 (h twoLinePath) _ hmem).noFeed (by decide)

end ScanDelta.Report
