import Mathlib.Data.List.DropRight
import Mathlib.Data.String.Basic
import GradleLocalstack.Model.Jvm

/-!
# `java.lang.String`, as far as names, options and numbers are taken apart with it
-/

set_option autoImplicit false

namespace GradleLocalstack.Model

/-- `s.substring(s.lastIndexOf(sep) + 1)`: what follows the last separator, and all of the
string if there is none. -/
def afterLast (sep : Char) (s : String) : String :=
  String.ofList (s.toList.rtakeWhile (· ≠ sep))

/-- Behind a separator, a string without separators is what follows the last one. -/
theorem afterLast_append {sep : Char} {p s : String} (hp : p.toList.getLast? = some sep)
    (hs : sep ∉ s.toList) : afterLast sep (p ++ s) = s := by
  obtain ⟨front, hfront⟩ := List.getLast?_eq_some_iff.mp hp
  have hkept : ∀ c ∈ s.toList.reverse, decide (c ≠ sep) = true := by
    intro c hc
    rw [decide_eq_true_eq]
    intro heq
    exact hs (heq ▸ List.mem_reverse.mp hc)
  unfold afterLast List.rtakeWhile
  rw [String.toList_append, List.reverse_append, List.takeWhile_append_of_pos hkept, hfront,
    List.reverse_append]
  simp

/-- `AbstractCollection.toString`, of a collection of strings. -/
def listToString (elements : List String) : String := "[" ++ ", ".intercalate elements ++ "]"

/-- `String.trim`: without the characters up to U+0020 at both ends. -/
def trim (s : String) : String :=
  let blank : Char → Bool := fun c => c ≤ ' '
  String.ofList ((s.toList.dropWhile blank).rdropWhile blank)

/-- `String.split` at one character: the pieces between the separators, without the empty
ones at the end; a string without separators is its only piece. -/
def split (sep : Char) (s : String) : List String :=
  if sep ∈ s.toList then
    ((s.toList.splitOn sep).rdropWhile List.isEmpty).map String.ofList
  else [s]

/-- Blank characters around a text that neither starts nor ends with one are trimmed. -/
theorem trim_padded {before name after : String} (hbefore : ∀ c ∈ before.toList, c ≤ ' ')
    (hafter : ∀ c ∈ after.toList, c ≤ ' ') (hne : name ≠ "")
    (hhead : ∀ c ∈ name.toList.head?, ¬ c ≤ ' ') (hlast : ∀ c ∈ name.toList.getLast?, ¬ c ≤ ' ') :
    trim (before ++ name ++ after) = name := by
  let blank : Char → Bool := fun c => c ≤ ' '
  have hlist : name.toList ≠ [] := fun hnil => hne (String.toList_eq_nil_iff.mp hnil)
  have hfront : (before.toList ++ (name.toList ++ after.toList)).dropWhile blank =
      name.toList ++ after.toList := by
    have hblank : ∀ c ∈ before.toList, blank c = true := by simpa [blank] using hbefore
    obtain ⟨c, cs, hcons⟩ := List.exists_cons_of_ne_nil hlist
    have hc : ¬ blank c = true := by simpa [blank, hcons] using hhead
    rw [List.dropWhile_append_of_pos hblank, hcons, List.cons_append,
      List.dropWhile_cons_of_neg hc]
  have hback : (name.toList ++ after.toList).rdropWhile blank = name.toList := by
    have hblank : ∀ c ∈ after.toList.reverse, blank c = true := by simpa [blank] using hafter
    have hself : name.toList.rdropWhile blank = name.toList := by
      rw [List.rdropWhile_eq_self_iff]
      intro hl
      simpa [blank] using hlast _ (List.getLast?_eq_getLast_of_ne_nil hl)
    rw [List.rdropWhile, List.reverse_append, List.dropWhile_append_of_pos hblank]
    exact hself
  unfold trim
  rw [String.toList_append, String.toList_append, List.append_assoc]
  show String.ofList (List.rdropWhile blank (List.dropWhile blank _)) = name
  rw [hfront, hback, String.ofList_toList]

/-- Splitting undoes joining, if the pieces have no separator and the last is not empty. -/
theorem split_intercalate {sep : Char} {pieces : List String} (hne : pieces ≠ [])
    (hpieces : ∀ s ∈ pieces, sep ∉ s.toList) (hlast : pieces.getLast hne ≠ "") :
    split sep ((String.singleton sep).intercalate pieces) = pieces := by
  have hlist : ((String.singleton sep).intercalate pieces).toList =
      [sep].intercalate (pieces.map String.toList) := by
    rw [String.toList_intercalate, String.toList_singleton]
  have hmap : pieces.map String.toList ≠ [] := by simpa using hne
  unfold split
  rw [hlist]
  split
  · have hsplit : ([sep].intercalate (pieces.map String.toList)).splitOn sep =
        pieces.map String.toList := by
      apply List.splitOn_intercalate sep _ hmap
      simpa using hpieces
    have hkept : (pieces.map String.toList).rdropWhile List.isEmpty =
        pieces.map String.toList := by
      rw [List.rdropWhile_eq_self_iff]
      intro hl
      rw [List.getLast_map]
      simpa using hlast
    rw [hsplit, hkept, List.map_map]
    simp [Function.comp_def]
  · case isFalse hnot =>
    -- without a separator there was nothing to join
    cases pieces with
    | nil => exact absurd rfl hne
    | cons s rest =>
      cases rest with
      | nil => rw [String.intercalate_singleton]
      | cons s' rest => exact absurd (by simp) hnot

example : (split ',' "CREATE_COMPLETE, DELETE_FAILED ,,").map trim =
    ["CREATE_COMPLETE", "DELETE_FAILED"] := by decide

/-- What a comma-delimited option stores: the names in it, or, if it is `null` or empty, what
was stored before. -/
def commaDelimited (option : Option String) (stored : Option (List String)) :
    Option (List String) :=
  match option with
  | some names => if names ≠ "" then some ((split ',' names).map trim) else stored
  | none => stored

/-- `new NumberFormatException("For input string: ...")`. -/
def numberFormatException (s : String) : Throwable :=
  .plain ⟨"java.lang.NumberFormatException", true⟩ (some s!"For input string: \"{s}\"")

/-- The value of a text of ASCII digits. -/
def digitsValue (digits : List Char) : Option ℕ :=
  if digits ≠ [] ∧ digits.all Char.isDigit then
    some (Nat.ofDigitChars 10 digits 0)
  else none

/-- The value of ASCII digits, possibly behind a sign. -/
def signedValue : List Char → Option ℤ
  | '-' :: digits => (digitsValue digits).map fun n : ℕ => -(n : ℤ)
  | '+' :: digits => (digitsValue digits).map fun n : ℕ => (n : ℤ)
  | digits => (digitsValue digits).map fun n : ℕ => (n : ℤ)

/-- `Long.parseLong`, on ASCII text: the value, if it has 64 bits. -/
def parseLong (s : String) : Except Throwable ℤ :=
  match signedValue s.toList with
  | some n =>
    if -0x8000000000000000 ≤ n ∧ n ≤ 0x7fffffffffffffff then .ok n
    else .error (numberFormatException s)
  | none => .error (numberFormatException s)

/-- The decimal digits of a number have its value. -/
theorem digitsValue_toString (n : ℕ) : digitsValue (toString n).toList = some n := by
  have hlist : (toString n).toList = Nat.toDigits 10 n := Nat.toList_repr
  have hdigits : (Nat.toDigits 10 n).all Char.isDigit = true := by
    rw [List.all_eq_true]
    intro c hc
    exact Nat.isDigit_of_mem_toDigits (by omega) (by omega) hc
  unfold digitsValue
  rw [hlist, if_pos ⟨Nat.toDigits_ne_nil, hdigits⟩, Nat.ofDigitChars_toDigits (by omega) (by omega)]

/-- Digits alone have no sign. -/
theorem signedValue_of_digits {digits : List Char} (h : ∀ c ∈ digits, c.isDigit = true) :
    signedValue digits = (digitsValue digits).map fun n : ℕ => (n : ℤ) := by
  unfold signedValue
  split
  · exact absurd (h '-' List.mem_cons_self) (by decide)
  · exact absurd (h '+' List.mem_cons_self) (by decide)
  · rfl

/-- The decimal text of a number is read back. -/
theorem signedValue_toString (n : ℤ) : signedValue (toString n).toList = some n := by
  have hdigits : ∀ m : ℕ, ∀ c ∈ (toString m).toList, c.isDigit = true := by
    intro m c hc
    exact Nat.isDigit_of_mem_toDigits (by omega) (by omega) (Nat.toList_repr ▸ hc)
  cases n with
  | ofNat m =>
    show signedValue (toString m).toList = some (m : ℤ)
    rw [signedValue_of_digits (hdigits m), digitsValue_toString, Option.map_some]
  | negSucc m =>
    have hsign : (toString (Int.negSucc m)).toList = '-' :: (toString (m + 1)).toList :=
      String.toList_append
    rw [hsign]
    show (digitsValue (toString (m + 1)).toList).map (fun n : ℕ => -(n : ℤ)) = some (Int.negSucc m)
    rw [digitsValue_toString]
    rfl

/-- The decimal text of a number is that of no other. -/
theorem toString_injective {m n : ℤ} (h : toString m = toString n) : m = n := by
  have hvalue := signedValue_toString m
  rw [h, signedValue_toString] at hvalue
  exact (Option.some.inj hvalue).symm

end GradleLocalstack.Model
