import Mathlib.Data.Nat.Digits.Defs
import Mathlib.Tactic.IntervalCases
/-!
# Scan — reading from the front of a text

A reader takes a value off the front of a text and leaves the rest, or leaves the text as it is.  Numbers are read digit by
digit and as far as the digits go, so that a number is read as it was written if what follows does not go on with a digit
(`number_toDigits`).
-/
namespace Scan

/-- A value at the front of a text, and the text after it. -/
abbrev Reader (α : Type) := List Char → Option (α × List Char)

variable {α : Type}

def char (c : Char) : Reader Unit
  | []           => none
  | head :: rest => if head = c then some ((), rest) else none

/-- The separator before all items but the first. -/
def separator (sep : Char) (index : Nat) (inner : Reader α) : Reader α := fun text =>
  if 0 < index then (char sep text).bind (fun p => inner p.2) else inner text

/-- So many items, from this index on. -/
def separated (sep : Char) (inner : Reader α) (index : Nat) : Nat → Reader (List α)
  | 0, text         => some ([], text)
  | count + 1, text =>
    (separator sep index inner text).bind (fun p =>
      (separated sep inner (index + 1) count p.2).map (fun q => (p.1 :: q.1, q.2)))

def toDigit (radix : Nat) (c : Char) : Option Nat :=
  let digit :=
    if 48 ≤ c.toNat ∧ c.toNat ≤ 57 then c.toNat - 48
    else if 97 ≤ c.toNat ∧ c.toNat ≤ 122 then c.toNat - 87
    else if 65 ≤ c.toNat ∧ c.toNat ≤ 90 then c.toNat - 55
    else radix
  if digit < radix then some digit else none

def takeDigits (radix : Nat) : List Char → List Nat × List Char
  | []           => ([], [])
  | head :: rest =>
    match toDigit radix head with
    | some digit => (digit :: (takeDigits radix rest).1, (takeDigits radix rest).2)
    | none       => ([], head :: rest)

def value (radix : Nat) (digits : List Nat) : Nat := digits.foldl (fun n digit => radix * n + digit) 0

/-- A number below `limit`, of at most so many digits if there is a bound on them. -/
def number (radix : Nat) (maxDigits : Option Nat) (allowZeroPrefix : Bool) (limit : Nat) : Reader Nat := fun text =>
  let (digits, rest) := takeDigits radix text
  if digits.isEmpty || maxDigits.any (fun most => decide (most < digits.length)) then none
  else if !allowZeroPrefix && digits.head? == some 0 && decide (1 < digits.length) then none
  else if value radix digits < limit then some (value radix digits, rest)
  else none

/-- The text does not go on with such a character. -/
def Ends (p : Char → Prop) (text : List Char) : Prop := ∀ c ∈ text.head?, ¬ p c

theorem ends_nil (p : Char → Prop) : Ends p [] := fun _ h => absurd h (Option.not_mem_none _)

theorem ends_cons {p : Char → Prop} {c : Char} (h : ¬ p c) (text : List Char) : Ends p (c :: text) := by
  intro d hd
  cases hd
  exact h

/-- The text does not go on with a digit. -/
abbrev EndsDigits (radix : Nat) : List Char → Prop := Ends (fun c => (toDigit radix c).isSome = true)

/-! ## Characters and items -/

@[simp] theorem char_cons (c : Char) (text : List Char) : char c (c :: text) = some ((), text) := if_pos rfl

theorem char_eq_none {c : Char} {text : List Char} (h : Ends (fun d => d = c) text) : char c text = none := by
  cases text with
  | nil => rfl
  | cons d text => exact if_neg (h d rfl)

theorem separator_zero (sep : Char) (inner : Reader α) (text : List Char) : separator sep 0 inner text = inner text :=
  if_neg (Nat.lt_irrefl 0)

theorem separator_succ (sep : Char) (index : Nat) (inner : Reader α) (text : List Char) :
    separator sep (index + 1) inner (sep :: text) = inner text := by
  rw [separator, if_pos (Nat.succ_pos index), char_cons, Option.bind_some]

/-- The separator before an item. -/
def lead (sep : Char) (index : Nat) : List Char := if 0 < index then [sep] else []

theorem separator_lead (sep : Char) (index : Nat) (inner : Reader α) (text : List Char) :
    separator sep index inner (lead sep index ++ text) = inner text := by
  cases index with
  | zero => exact separator_zero sep inner text
  | succ index => exact separator_succ sep index inner text

theorem separator_eq_none {sep : Char} {index : Nat} {inner : Reader α} {text : List Char} (h : inner text = none)
    (hsep : ∀ rest, text = sep :: rest → inner rest = none) : separator sep index inner text = none := by
  unfold separator
  split
  · cases text with
    | nil => rfl
    | cons d rest =>
      by_cases hd : d = sep
      · subst hd
        rw [char_cons, Option.bind_some]
        exact hsep rest rfl
      · rw [char_eq_none (ends_cons (p := fun e => e = sep) hd rest), Option.bind_none]
  · exact h

/-- Items with the separator between them, each written by `write`. -/
def joined {β : Type} (sep : Char) (write : β → List Char) (index : Nat) : List β → List Char
  | []      => []
  | b :: bs => lead sep index ++ (write b ++ joined sep write (index + 1) bs)

theorem joined_succ {β : Type} (sep : Char) (write : β → List Char) (index : Nat) (bs : List β) :
    joined sep write (index + 1) bs = bs.flatMap (fun b => sep :: write b) := by
  induction bs generalizing index with
  | nil => rfl
  | cons b bs ih => rw [joined, ih, List.flatMap_cons]; rfl

theorem joined_eq_intercalate {β : Type} (sep : Char) (write : β → List Char) (bs : List β) :
    joined sep write 0 bs = [sep].intercalate (bs.map write) := by
  cases bs with
  | nil => rfl
  | cons b bs =>
    rw [joined, joined_succ, List.map_cons]
    show write b ++ _ = _
    induction bs generalizing b with
    | nil => simp
    | cons c bs ih =>
      rw [List.map_cons, List.intercalate_cons_cons, ← ih c, List.flatMap_cons]
      simp

/-- **Items are read as they were written**, if each is read from before a separator and from before what follows. -/
theorem separated_joined {β : Type} {sep : Char} {inner : Reader α} {write : β → List Char} {read : β → α}
    {Good : List Char → Prop} (hinner : ∀ b rest, Good rest → inner (write b ++ rest) = some (read b, rest))
    (hsep : ∀ rest, Good (sep :: rest)) : ∀ (bs : List β) (index : Nat) {rest : List Char}, Good rest →
    separated sep inner index bs.length (joined sep write index bs ++ rest) = some (bs.map read, rest)
  | [], _, _, _ => rfl
  | b :: bs, index, rest, hrest => by
    have hgood : Good (joined sep write (index + 1) bs ++ rest) := by
      cases bs with
      | nil => exact hrest
      | cons c bs =>
        rw [joined_succ]
        exact hsep _
    rw [joined, List.append_assoc, List.append_assoc, List.length_cons, separated, separator_lead, hinner b _ hgood,
      Option.bind_some, separated_joined hinner hsep bs (index + 1) hrest]
    rfl

/-! ## Digits -/

theorem toDigit_digitChar {radix digit : Nat} (hradix : radix ≤ 16) (h : digit < radix) :
    toDigit radix digit.digitChar = some digit := by
  have hlt : digit < 16 := Nat.lt_of_lt_of_le h hradix
  unfold toDigit
  interval_cases digit <;> exact if_pos h

theorem takeDigits_nil (radix : Nat) {text : List Char} (h : EndsDigits radix text) :
    takeDigits radix text = ([], text) := by
  cases text with
  | nil => rfl
  | cons c text =>
    have hc : toDigit radix c = none := Option.not_isSome_iff_eq_none.1 (h c rfl)
    rw [takeDigits, hc]

theorem takeDigits_append {radix : Nat} (hradix : radix ≤ 16) : ∀ {digits : List Nat}, (∀ d ∈ digits, d < radix) →
    ∀ {rest : List Char}, EndsDigits radix rest → takeDigits radix (digits.map Nat.digitChar ++ rest) = (digits, rest)
  | [], _, rest, h => takeDigits_nil radix h
  | d :: digits, hd, rest, h => by
    rw [List.map_cons, List.cons_append, takeDigits, toDigit_digitChar hradix (hd d List.mem_cons_self),
      takeDigits_append hradix (fun e he => hd e (List.mem_cons_of_mem d he)) h]

/-- **The digits of a number**, as they are written. -/
structure Numeral (radix n : Nat) (digits : List Nat) : Prop where
  text : Nat.toDigits radix n = digits.map Nat.digitChar
  lt : ∀ d ∈ digits, d < radix
  value : value radix digits = n
  ne_nil : digits ≠ []
  zero : digits.head? = some 0 → n = 0

theorem exists_numeral {radix : Nat} (hradix : 1 < radix) (n : Nat) : ∃ digits, Numeral radix n digits := by
  induction n using Nat.strongRecOn with
  | ind n ih =>
    rcases Nat.lt_or_ge n radix with hlt | hge
    · refine ⟨[n], Nat.toDigits_of_lt_base hlt, fun d hd => ?_, ?_, List.cons_ne_nil _ _, fun h => Option.some.inj h⟩
      · rw [List.mem_singleton.1 hd]
        exact hlt
      · show radix * 0 + n = n
        omega
    · -- the last digit is written behind the others
      have hpos : 0 < n / radix := Nat.div_pos hge (by omega)
      obtain ⟨digits, htext, hd, hvalue, hne, hzero⟩ := ih (n / radix) (Nat.div_lt_self (by omega) hradix)
      refine ⟨digits ++ [n % radix], ?_, fun d hm => ?_, ?_, List.append_ne_nil_of_left_ne_nil hne _, fun h => ?_⟩
      · rw [Nat.toDigits_of_base_le hradix hge, htext, List.map_append]
        rfl
      · rcases List.mem_append.1 hm with hm | hm
        · exact hd d hm
        · rw [List.mem_singleton.1 hm]
          exact Nat.mod_lt n (by omega)
      · rw [Scan.value, List.foldl_append]
        show radix * Scan.value radix digits + n % radix = n
        rw [hvalue]
        exact Nat.div_add_mod n radix
      · obtain ⟨d, ds, rfl⟩ := List.exists_cons_of_ne_nil hne
        exact absurd (hzero h) (by omega)

theorem number_eq_none (radix : Nat) {maxDigits : Option Nat} {allowZeroPrefix : Bool} {limit : Nat} {text : List Char}
    (h : EndsDigits radix text) : number radix maxDigits allowZeroPrefix limit text = none := by
  rw [number, takeDigits_nil radix h]
  rfl

/-- **A number is read as it was written**, if it is not too long and what follows does not go on with a digit. -/
theorem number_toDigits {radix : Nat} (hradix : 1 < radix) (hle : radix ≤ 16) {n limit : Nat} (hn : n < limit)
    {maxDigits : Option Nat} (hmax : ∀ most ∈ maxDigits, 0 < most ∧ n < radix ^ most) (allowZeroPrefix : Bool)
    {rest : List Char} (hrest : EndsDigits radix rest) :
    number radix maxDigits allowZeroPrefix limit (Nat.toDigits radix n ++ rest) = some (n, rest) := by
  obtain ⟨digits, htext, hd, hvalue, hne, hzero⟩ := exists_numeral hradix n
  have hlong : maxDigits.any (fun most => decide (most < digits.length)) = false := by
    cases maxDigits with
    | none => rfl
    | some most =>
      obtain ⟨hpos, hlt⟩ := hmax most rfl
      have hlen := (Nat.length_toDigits_le_iff hradix hpos).2 hlt
      rw [htext, List.length_map] at hlen
      exact decide_eq_false (by omega)
  have hprefix : (!allowZeroPrefix && digits.head? == some 0 && decide (1 < digits.length)) = false := by
    by_cases hhead : digits.head? = some 0
    · have hlen : digits.length = 1 := by
        have hone := congrArg List.length htext
        rw [hzero hhead, Nat.toDigits_of_lt_base (by omega), List.length_map] at hone
        exact hone.symm
      rw [hlen]
      simp
    · simp [hhead]
  rw [number, htext, takeDigits_append hle hd hrest]
  simp only
  rw [hlong, hprefix, hvalue, List.isEmpty_eq_false_iff.2 hne]
  simp [hn]

end Scan
