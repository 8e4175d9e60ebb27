/-!
# Punycode

A way to write a text in ASCII letters, digits and hyphens: first the ASCII characters of the text, then the
others in increasing order, each as the distance of its value and place from the one before. Distances are
numbers of base 36, the lowest digit first, in which a digit below a threshold is the last one; the thresholds
adapt to the distances seen.

* `Punycode.encode?`, `Punycode.decode?` : to and from this form, for texts of limited length.
-/

set_option autoImplicit false

namespace ScanDelta.Http.Punycode

/-! ## Digits -/

/-- The digits `a` to `z` and `0` to `9`. -/
def digitChar (d : Nat) : Char :=
  if d < 26 then Char.ofNat ('a'.toNat + d) else Char.ofNat ('0'.toNat + (d - 26))

def digitValue? (c : Char) : Option Nat :=
  if c.isDigit then some (c.toNat - '0'.toNat + 26)
  else if c.isAlpha then some (c.toLower.toNat - 'a'.toNat)
  else none

/-- The threshold of the digit at place `k`, where places count by 36. -/
def threshold (k bias : Nat) : Nat :=
  if k ≤ bias then 1 else if bias + 26 ≤ k then 26 else k - bias

theorem threshold_pos (k bias : Nat) : 1 ≤ threshold k bias := by
  unfold threshold
  split
  · omega
  · split <;> omega

/-- Divides a distance until it is small; gives it with 36 for each division. -/
def shrink (delta k : Nat) : Nat × Nat :=
  if 455 < delta then shrink (delta / 35) (k + 36) else (delta, k)
termination_by delta
decreasing_by exact Nat.div_lt_self (by omega) (by omega)

/-- The bias after a distance, with so many characters in place. -/
def adapt (delta count : Nat) (isFirst : Bool) : Nat :=
  let delta := if isFirst then delta / 700 else delta / 2
  let (rest, k) := shrink (delta + delta / count) 0
  k + 36 * rest / (rest + 38)

def isAscii (c : Char) : Bool := c.toNat < 0x80

/-! ## Writing -/

/-- A number in digits, from the place `k` on. -/
def digits (bias k n : Nat) : List Char :=
  let t := threshold k bias
  if n < t then [digitChar n] else digitChar (t + (n - t) % (36 - t)) :: digits bias (k + 36) ((n - t) / (36 - t))
termination_by n
decreasing_by
  have h := threshold_pos k bias
  exact Nat.lt_of_le_of_lt (Nat.div_le_self _ _) (by omega)

/-- What is written so far, and what the next distance depends on. -/
structure Writing where
  out : List Char
  delta : Nat
  bias : Nat
  /-- How many characters are in place. -/
  count : Nat
  isFirst : Bool

/-- Takes notice of one character of the text while those of value `n` are put in place. -/
def Writing.see (n : Nat) (w : Writing) (c : Char) : Writing :=
  if c.toNat < n then { w with delta := w.delta + 1 }
  else if c.toNat = n then
    { out := w.out ++ digits w.bias 36 w.delta
      delta := 0
      bias := adapt w.delta (w.count + 1) w.isFirst
      count := w.count + 1
      isFirst := false }
  else w

/-- Puts the characters of these values in place, where those below `least` are. -/
def Writing.place (text : List Char) : Nat → Writing → List Nat → Writing
  | _, w, [] => w
  | least, w, n :: ns =>
    let w := { w with delta := w.delta + (n - least) * (w.count + 1) }
    let w := text.foldl (see n) w
    place text (n + 1) { w with delta := w.delta + 1 } ns

/-- The values of the characters that are not ASCII, in increasing order, each once. -/
def extendedValues (text : List Char) : List Nat :=
  (((text.filter fun c => !isAscii c).map Char.toNat).mergeSort).eraseDups

def encode (text : List Char) : List Char :=
  let basic := text.filter isAscii
  let w := Writing.place text 0x80 ⟨[], 0, 72, basic.length, true⟩ (extendedValues text)
  basic ++ (if basic.isEmpty then [] else ['-']) ++ w.out

/-- The greatest length of a text to write. -/
def encodeLimit : Nat := 1000

def encode? (text : List Char) : Option (List Char) :=
  if text.length ≤ encodeLimit then some (encode text) else none

/-! ## Reading -/

/-- Reads a number from the place `k` on, and adds it to `i`; its next digit counts `weight`. -/
def number? (bias : Nat) : Nat → Nat → Nat → List Char → Option (Nat × List Char)
  | _, _, _, [] => none
  | k, weight, i, c :: cs =>
    match digitValue? c with
    | none => none
    | some d =>
      let t := threshold k bias
      if d < t then some (i + d * weight, cs) else number? bias (k + 36) (weight * (36 - t)) (i + d * weight) cs

theorem number?_length {bias k weight i : Nat} {cs : List Char} {r : Nat × List Char}
    (h : number? bias k weight i cs = some r) : r.2.length < cs.length := by
  induction cs generalizing k weight i with
  | nil => simp [number?] at h
  | cons c cs ih =>
    rw [number?] at h
    split at h
    · simp at h
    · dsimp only at h
      split at h
      · simp only [Option.some.injEq] at h
        subst h
        simp
      · exact Nat.lt_succ_of_lt (ih h)

/-- Puts further characters in place; the last one had the value `n`, and the next place is `i`. -/
def placeRead (bias n i : Nat) (out cs : List Char) : Option (List Char) :=
  match cs with
  | [] => some out
  | c :: cs =>
    match _hr : number? bias 36 1 i (c :: cs) with
    | none => none
    | some (j, rest) =>
      let count := out.length + 1
      let value := n + j / count
      if value.isValidChar then
        placeRead (adapt (j - i) count (i = 0)) value (j % count + 1)
          (out.insertIdx (j % count) (Char.ofNat value)) rest
      else none
termination_by cs.length
decreasing_by
  have := number?_length _hr
  simpa using this

/-- What stands before the last hyphen, and what behind it; a hyphen in front of all does not count. -/
def cutLastHyphen (cs : List Char) : List Char × List Char :=
  match cs.reverse.span (· ≠ '-') with
  | (after, _ :: c :: before) => ((c :: before).reverse, after.reverse)
  | _ => ([], cs)

/-- The greatest length of a text to read. -/
def decodeLimit : Nat := 2000

def decode? (cs : List Char) : Option (List Char) :=
  let (basic, rest) := cutLastHyphen cs
  if cs.length ≤ decodeLimit && basic.all isAscii then placeRead 72 0x80 0 basic rest else none

end ScanDelta.Http.Punycode
