import Mathlib.Data.List.DropRight
import Mathlib.Data.List.Infix
import Mathlib.Data.Nat.Digits.Defs
/-!
# Text — strings as lists of characters

The string functions a program builds a text format from: splitting at a character, trimming, searching, the ASCII changes
of case, and numerals.  `split_append` and `split_of_notMem` say that splitting undoes joining, for parts without the
separator; what `split` returns has none (`notMem_of_mem_split`), and trimming is idempotent.  The parts of a text are the
last parts of another exactly if it is that text, or its end after a separator (`split_suffix_iff`).  `parseUnsigned` reads
the numerals and nothing else (`parseUnsigned_eq_some`).
-/
namespace Text

/-- Unicode's `White_Space`. -/
def isWhitespace (c : Char) : Bool :=
  let n := c.toNat
  decide (9 ≤ n ∧ n ≤ 13) || [0x20, 0x85, 0xA0, 0x1680, 0x2028, 0x2029, 0x202F, 0x205F, 0x3000].contains n ||
    decide (0x2000 ≤ n ∧ n ≤ 0x200A)

def split (sep : Char) (s : String) : List String := (s.toList.splitOn sep).map String.ofList

def trim (s : String) : String := String.ofList ((s.toList.dropWhile isWhitespace).rdropWhile isWhitespace)

def trimEndMatches (c : Char) (s : String) : String := String.ofList (s.toList.rdropWhile (fun x => x == c))

def contains (s part : String) : Bool := decide (part.toList <:+: s.toList)

def endsWith (s suffix : String) : Bool := suffix.toList.isSuffixOf s.toList

def toAsciiLowercase (s : String) : String := String.ofList (s.toList.map Char.toLower)

def toAsciiUppercase (s : String) : String := String.ofList (s.toList.map Char.toUpper)

/-- A number in decimal below `limit`, with or without a plus sign. -/
def parseUnsigned (limit : Nat) (s : String) : Option Nat :=
  let digits := match s.toList with
    | '+' :: rest => rest
    | chars       => chars
  if digits.isEmpty || !digits.all Char.isDigit then none
  else
    let n := digits.foldl (fun n c => 10 * n + (c.toNat - 48)) 0
    if n < limit then some n else none

/-! ## Splitting -/

theorem beq_of_notMem {sep : Char} {l : List Char} (h : sep ∉ l) : ∀ c ∈ l, (c == sep) = false := by
  intro c hc
  exact beq_false_of_ne (fun he => h (he ▸ hc))

theorem split_of_notMem {sep : Char} {s : String} (h : sep ∉ s.toList) : split sep s = [s] := by
  have hone : s.toList.splitOn sep = [s.toList] := List.splitOnP_eq_singleton (beq_of_notMem h)
  rw [split, hone, List.map_singleton, String.ofList_toList]

theorem splitOn_append_cons (sep : Char) (xs ys : List Char) :
    (xs ++ sep :: ys).splitOn sep = xs.splitOn sep ++ ys.splitOn sep :=
  List.splitOnP_append_cons xs ys (beq_self_eq_true sep)

theorem split_append_append (sep : Char) (a b : String) :
    split sep (a ++ String.singleton sep ++ b) = split sep a ++ split sep b := by
  have hlist : (a ++ String.singleton sep ++ b).toList = a.toList ++ sep :: b.toList := by
    rw [String.toList_append, String.toList_append, String.toList_singleton, List.append_assoc, List.singleton_append]
  rw [split, hlist, splitOn_append_cons, List.map_append, split, split]

theorem split_append {sep : Char} {a : String} (h : sep ∉ a.toList) (b : String) :
    split sep (a ++ String.singleton sep ++ b) = a :: split sep b := by
  rw [split_append_append, split_of_notMem h, List.singleton_append]

theorem notMem_of_mem_splitOn {sep : Char} : ∀ {l part : List Char}, part ∈ l.splitOn sep → sep ∉ part
  | [], part, h => by
    rw [List.splitOn_nil, List.mem_singleton] at h
    rw [h]
    exact List.not_mem_nil
  | c :: l, part, h => by
    have hcons : (c :: l).splitOn sep = if c == sep then [] :: l.splitOn sep else (l.splitOn sep).modifyHead (List.cons c) :=
      List.splitOnP_cons_eq_if_modifyHead c l
    rw [hcons] at h
    by_cases hc : c = sep
    · rw [if_pos (beq_iff_eq.2 hc)] at h
      rcases List.mem_cons.1 h with rfl | h
      · exact List.not_mem_nil
      · exact notMem_of_mem_splitOn h
    · -- the first part of the rest is the one that gets the character
      rw [if_neg (fun he => hc (beq_iff_eq.1 he))] at h
      cases hl : l.splitOn sep with
      | nil => rw [hl] at h; cases h
      | cons first rest =>
        rw [hl, List.modifyHead_cons] at h
        rcases List.mem_cons.1 h with rfl | h
        · have hfirst := notMem_of_mem_splitOn (hl ▸ List.mem_cons_self : first ∈ l.splitOn sep)
          rw [List.mem_cons, not_or]
          exact ⟨Ne.symm hc, hfirst⟩
        · exact notMem_of_mem_splitOn (hl ▸ List.mem_cons_of_mem first h : part ∈ l.splitOn sep)

theorem notMem_of_mem_split {sep : Char} {s part : String} (h : part ∈ split sep s) : sep ∉ part.toList := by
  obtain ⟨l, hl, rfl⟩ := List.mem_map.1 h
  rw [String.toList_ofList]
  exact notMem_of_mem_splitOn hl

theorem splitOn_inj {sep : Char} {xs ys : List Char} (h : xs.splitOn sep = ys.splitOn sep) : xs = ys := by
  have hjoin := congrArg ([sep].intercalate) h
  rwa [List.intercalate_splitOn, List.intercalate_splitOn] at hjoin

theorem split_inj {sep : Char} {s t : String} (h : split sep s = split sep t) : s = t := by
  have hmap := congrArg (List.map String.toList) h
  simp only [split, List.map_map, Function.comp_def, String.toList_ofList, List.map_id'] at hmap
  exact String.toList_inj.1 (splitOn_inj hmap)

theorem length_split_pos (sep : Char) (s : String) : 0 < (split sep s).length := by
  rw [split, List.length_map]
  exact List.length_pos_iff.2 (List.splitOnP_ne_nil _ _)

/-- A text of one part is that part. -/
theorem split_of_length_one {sep : Char} {s : String} (h : (split sep s).length = 1) : split sep s = [s] := by
  rw [split, List.length_map] at h
  obtain ⟨l, hl⟩ := List.length_eq_one_iff.1 h
  have hself : [sep].intercalate [l] = s.toList := hl ▸ List.intercalate_splitOn sep
  rw [List.intercalate_singleton] at hself
  rw [split, hl, List.map_singleton, hself, String.ofList_toList]

theorem splitOn_suffix_iff {sep : Char} {xs ys : List Char} :
    xs.splitOn sep <:+ ys.splitOn sep ↔ ys = xs ∨ sep :: xs <:+ ys := by
  constructor
  · rintro ⟨parts, h⟩
    cases hp : parts with
    | nil =>
      rw [hp, List.nil_append] at h
      exact Or.inl (splitOn_inj h).symm
    | cons part rest =>
      -- the parts before are those of a text without the separator inside a part
      have hnone : ∀ p ∈ parts, sep ∉ p := fun p hm => notMem_of_mem_splitOn (h ▸ List.mem_append_left _ hm)
      have hne : parts ≠ [] := by rw [hp]; exact List.cons_ne_nil part rest
      have hparts : ([sep].intercalate parts ++ sep :: xs).splitOn sep = ys.splitOn sep := by
        rw [splitOn_append_cons, List.splitOn_intercalate sep hnone hne, h]
      exact Or.inr ⟨[sep].intercalate parts, splitOn_inj hparts⟩
  · rintro (rfl | ⟨before, rfl⟩)
    · exact List.suffix_rfl
    · rw [splitOn_append_cons]
      exact List.suffix_append _ _

/-- **The parts of a text are the last parts of another** exactly if it is that text or its end after a separator. -/
theorem split_suffix_iff {sep : Char} {a b : String} :
    split sep a <:+ split sep b ↔ b = a ∨ endsWith b (String.singleton sep ++ a) = true := by
  have hlists : split sep a <:+ split sep b ↔ a.toList.splitOn sep <:+ b.toList.splitOn sep := by
    constructor
    · rintro ⟨parts, h⟩
      have hmap := congrArg (List.map String.toList) h
      simp only [split, List.map_append, List.map_map, Function.comp_def, String.toList_ofList, List.map_id'] at hmap
      exact ⟨_, hmap⟩
    · exact fun h => h.map String.ofList
  rw [hlists, splitOn_suffix_iff, String.toList_inj, endsWith, List.isSuffixOf_iff_suffix, String.toList_append,
    String.toList_singleton, List.singleton_append]

theorem split_intercalate {sep : Char} {parts : List String} (hnone : ∀ part ∈ parts, sep ∉ part.toList)
    (hne : parts ≠ []) : split sep ((String.singleton sep).intercalate parts) = parts := by
  have hlists : ∀ l ∈ parts.map String.toList, sep ∉ l := by
    intro l hl
    obtain ⟨part, hm, rfl⟩ := List.mem_map.1 hl
    exact hnone part hm
  have hmap : parts.map String.toList ≠ [] := fun h => hne (List.map_eq_nil_iff.1 h)
  rw [split, String.toList_intercalate, String.toList_singleton, List.splitOn_intercalate sep hlists hmap, List.map_map]
  simp only [Function.comp_def, String.ofList_toList, List.map_id']

/-- A text has two parts exactly if it is one, the separator and the other. -/
theorem split_eq_pair {sep : Char} {s a b : String} :
    split sep s = [a, b] ↔ s = a ++ String.singleton sep ++ b ∧ sep ∉ a.toList ∧ sep ∉ b.toList := by
  constructor
  · intro h
    have ha : sep ∉ a.toList := notMem_of_mem_split (s := s) (by rw [h]; exact List.mem_cons_self)
    have hb : sep ∉ b.toList := notMem_of_mem_split (s := s) (by rw [h]; exact List.mem_cons_of_mem a List.mem_cons_self)
    have hsplit : split sep (a ++ String.singleton sep ++ b) = split sep s := by
      rw [split_append ha, split_of_notMem hb, h]
    exact ⟨(split_inj hsplit).symm, ha, hb⟩
  · rintro ⟨rfl, ha, hb⟩
    rw [split_append ha, split_of_notMem hb]

theorem contains_singleton {s : String} {c : Char} : contains s (String.singleton c) = true ↔ c ∈ s.toList := by
  rw [contains, decide_eq_true_iff, String.toList_singleton, List.singleton_infix_iff]

/-! ## Trimming -/

theorem mem_of_mem_trim {c : Char} {s : String} (h : c ∈ (trim s).toList) : c ∈ s.toList := by
  rw [trim, String.toList_ofList] at h
  exact (List.dropWhile_suffix _).subset ((List.rdropWhile_prefix _ _).subset h)

/-- A text that neither starts nor ends with white space is left as it is. -/
theorem trim_eq_self {s : String} (hhead : ∀ c ∈ s.toList.head?, isWhitespace c = false)
    (hlast : ∀ c ∈ s.toList.getLast?, isWhitespace c = false) : trim s = s := by
  have hdrop : s.toList.dropWhile isWhitespace = s.toList := by
    cases hl : s.toList with
    | nil => rfl
    | cons c l =>
      have hc := hhead c (by rw [hl]; rfl)
      rw [List.dropWhile_cons_of_neg (by rw [hc]; exact Bool.false_ne_true)]
  have hrdrop : s.toList.rdropWhile isWhitespace = s.toList := by
    refine List.rdropWhile_eq_self_iff.2 (fun hne => ?_)
    rw [hlast _ (List.getLast?_eq_some_getLast hne)]
    exact Bool.false_ne_true
  rw [trim, hdrop, hrdrop, String.ofList_toList]

theorem trim_of_none {s : String} (h : ∀ c ∈ s.toList, isWhitespace c = false) : trim s = s :=
  trim_eq_self (fun c hc => h c (List.mem_of_mem_head? hc)) (fun c hc => h c (List.mem_of_mem_getLast? hc))

theorem trim_trim (s : String) : trim (trim s) = trim s := by
  have hlist : (trim s).toList = (s.toList.dropWhile isWhitespace).rdropWhile isWhitespace := String.toList_ofList
  refine trim_eq_self (fun c hc => ?_) (fun c hc => ?_)
  · -- what is left after the end is cut off starts as before
    have hnot := List.head?_dropWhile_not isWhitespace s.toList
    obtain ⟨l, hl⟩ := List.rdropWhile_prefix isWhitespace (s.toList.dropWhile isWhitespace)
    rw [hlist] at hc
    rw [← hl, List.head?_append, Option.mem_def.1 hc] at hnot
    exact hnot
  · rw [hlist] at hc
    obtain ⟨hne, rfl⟩ := List.mem_getLast?_eq_getLast hc
    exact Bool.eq_false_iff.2 (List.rdropWhile_last_not isWhitespace _ hne)

theorem trimEndMatches_eq_self {c : Char} {s : String} (h : ∀ x ∈ s.toList.getLast?, x ≠ c) :
    trimEndMatches c s = s := by
  have hrdrop : s.toList.rdropWhile (fun x => x == c) = s.toList := by
    refine List.rdropWhile_eq_self_iff.2 (fun hne he => ?_)
    exact h _ (List.getLast?_eq_some_getLast hne) (beq_iff_eq.1 he)
  rw [trimEndMatches, hrdrop, String.ofList_toList]

theorem getLast?_trimEndMatches {c : Char} {s : String} : ∀ x ∈ (trimEndMatches c s).toList.getLast?, x ≠ c := by
  intro x hx he
  rw [trimEndMatches, String.toList_ofList] at hx
  obtain ⟨hne, rfl⟩ := List.mem_getLast?_eq_getLast hx
  exact List.rdropWhile_last_not _ _ hne (beq_iff_eq.2 he)

/-! ## ASCII case -/

theorem toNat_toLower (c : Char) :
    c.toLower.toNat = if 65 ≤ c.toNat ∧ c.toNat ≤ 90 then c.toNat + 32 else c.toNat := by
  unfold Char.toLower
  split
  · rename_i h
    have hlo : 65 ≤ c.toNat := h.1
    have hhi : c.toNat ≤ 90 := h.2
    rw [if_pos ⟨hlo, hhi⟩]
    show (c.val + 32).toNat = c.toNat + 32
    rw [UInt32.toNat_add]
    exact Nat.mod_eq_of_lt (show c.toNat + 32 < 4294967296 by omega)
  · rename_i h
    exact (if_neg (show ¬ (65 ≤ c.toNat ∧ c.toNat ≤ 90) from h)).symm

theorem toNat_toUpper (c : Char) :
    c.toUpper.toNat = if 97 ≤ c.toNat ∧ c.toNat ≤ 122 then c.toNat - 32 else c.toNat := by
  unfold Char.toUpper
  split
  · rename_i h
    have hlo : 97 ≤ c.toNat := h.1
    have hhi : c.toNat ≤ 122 := h.2
    rw [if_pos ⟨hlo, hhi⟩]
    have hdiff : ('A'.val - 'a'.val).toNat = 4294967264 := rfl
    show (c.val + ('A'.val - 'a'.val)).toNat = c.toNat - 32
    rw [UInt32.toNat_add, hdiff]
    show (c.toNat + 4294967264) % 4294967296 = c.toNat - 32
    omega
  · rename_i h
    exact (if_neg (show ¬ (97 ≤ c.toNat ∧ c.toNat ≤ 122) from h)).symm

theorem toLower_toLower (c : Char) : c.toLower.toLower = c.toLower := by
  apply Char.toNat_inj.1
  rw [toNat_toLower, toNat_toLower]
  by_cases h : 65 ≤ c.toNat ∧ c.toNat ≤ 90
  · rw [if_pos h, if_neg (by omega)]
  · rw [if_neg h, if_neg h]

theorem toUpper_toUpper (c : Char) : c.toUpper.toUpper = c.toUpper := by
  apply Char.toNat_inj.1
  rw [toNat_toUpper, toNat_toUpper]
  by_cases h : 97 ≤ c.toNat ∧ c.toNat ≤ 122
  · rw [if_pos h, if_neg (by omega)]
  · rw [if_neg h, if_neg h]

theorem toAsciiLowercase_idem (s : String) : toAsciiLowercase (toAsciiLowercase s) = toAsciiLowercase s := by
  simp only [toAsciiLowercase, String.toList_ofList, List.map_map]
  exact congrArg String.ofList (List.map_congr_left (fun c _ => toLower_toLower c))

theorem toAsciiUppercase_idem (s : String) : toAsciiUppercase (toAsciiUppercase s) = toAsciiUppercase s := by
  simp only [toAsciiUppercase, String.toList_ofList, List.map_map]
  exact congrArg String.ofList (List.map_congr_left (fun c _ => toUpper_toUpper c))

/-- What becomes a character that is no lower case letter was that character. -/
theorem eq_of_toLower_eq {c d : Char} (hd : ¬ (97 ≤ d.toNat ∧ d.toNat ≤ 122)) (h : c.toLower = d) : c = d := by
  have hn := toNat_toLower c
  rw [h] at hn
  apply Char.toNat_inj.1
  by_cases hu : 65 ≤ c.toNat ∧ c.toNat ≤ 90
  · rw [if_pos hu] at hn
    omega
  · rw [if_neg hu] at hn
    exact hn.symm

theorem trimEndMatches_toAsciiLowercase {c : Char} (hc : ¬ (97 ≤ c.toNat ∧ c.toNat ≤ 122)) (s : String) :
    trimEndMatches c (toAsciiLowercase (trimEndMatches c s)) = toAsciiLowercase (trimEndMatches c s) := by
  refine trimEndMatches_eq_self (fun x hx he => ?_)
  rw [toAsciiLowercase, String.toList_ofList, List.getLast?_map] at hx
  obtain ⟨y, hy, rfl⟩ := Option.map_eq_some_iff.1 hx
  exact getLast?_trimEndMatches y hy (eq_of_toLower_eq hc he)

/-! ## Numerals -/

/-- One or more digits, with or without a plus sign before them, and the number that they are in decimal. -/
def IsNumeral (s : String) (n : Nat) : Prop :=
  ∃ digits : List Char, (s.toList = digits ∨ s.toList = '+' :: digits) ∧ digits ≠ [] ∧
    (∀ c ∈ digits, c.isDigit = true) ∧ n = Nat.ofDigits 10 (digits.map (fun c => c.toNat - 48)).reverse

theorem foldl_digits (digits : List Char) :
    digits.foldl (fun n c => 10 * n + (c.toNat - 48)) 0 = Nat.ofDigits 10 (digits.map (fun c => c.toNat - 48)).reverse := by
  rw [Nat.ofDigits_eq_foldr, List.foldr_reverse, List.foldl_map]
  simp only [Nat.cast_id, Nat.add_comm]

/-- The digits of a text: what is left without a plus sign. -/
def unsigned : List Char → List Char
  | '+' :: rest => rest
  | chars       => chars

theorem unsigned_of_digits {digits : List Char} (h : ∀ c ∈ digits, c.isDigit = true) : unsigned digits = digits := by
  unfold unsigned
  split
  · exact absurd (h '+' List.mem_cons_self) (by decide)
  · rfl

theorem eq_unsigned_or (chars : List Char) : chars = unsigned chars ∨ chars = '+' :: unsigned chars := by
  unfold unsigned
  split
  · exact Or.inr rfl
  · exact Or.inl rfl

/-- **What is read is a numeral** whose number is below the limit, and every such numeral is read. -/
theorem parseUnsigned_eq_some {limit n : Nat} {s : String} :
    parseUnsigned limit s = some n ↔ IsNumeral s n ∧ n < limit := by
  have hparse : parseUnsigned limit s =
      if (unsigned s.toList).isEmpty || !(unsigned s.toList).all Char.isDigit then none
      else
        let n := (unsigned s.toList).foldl (fun n c => 10 * n + (c.toNat - 48)) 0
        if n < limit then some n else none := rfl
  rw [hparse, foldl_digits, Option.ite_none_left_eq_some, Option.ite_none_right_eq_some]
  constructor
  · rintro ⟨hdigits, hlt, hn⟩
    rw [Bool.or_eq_true, not_or, Bool.not_eq_true', Bool.not_eq_false] at hdigits
    obtain ⟨hne, hall⟩ := hdigits
    have hnil : unsigned s.toList ≠ [] := fun he => hne (by rw [he]; rfl)
    cases hn
    exact ⟨⟨unsigned s.toList, eq_unsigned_or s.toList, hnil, List.all_eq_true.1 hall, rfl⟩, hlt⟩
  · rintro ⟨⟨digits, hs, hne, hall, rfl⟩, hlt⟩
    have hdigits : unsigned s.toList = digits := by
      rcases hs with hs | hs
      · rw [hs, unsigned_of_digits hall]
      · rw [hs]; rfl
    have hcond : (digits.isEmpty || !digits.all Char.isDigit) = false := by
      rw [List.all_eq_true.2 hall, List.isEmpty_eq_false_iff.2 hne]; rfl
    rw [hdigits, hcond]
    exact ⟨Bool.false_ne_true, hlt, rfl⟩

theorem toList_toString (n : Nat) : (toString n : String).toList = Nat.toDigits 10 n := by
  rw [Nat.toString_eq_ofList_toDigits, String.toList_ofList]

theorem isDigit_of_mem_toString {n : Nat} {c : Char} (h : c ∈ (toString n : String).toList) : c.isDigit = true := by
  rw [toList_toString] at h
  exact Nat.isDigit_of_mem_toDigits (by decide) (by decide) h

theorem isNumeral_toString (n : Nat) : IsNumeral (toString n) n := by
  refine ⟨Nat.toDigits 10 n, Or.inl (toList_toString n), Nat.toDigits_ne_nil, fun c hc => ?_, ?_⟩
  · exact isDigit_of_mem_toString (toList_toString n ▸ hc)
  · rw [← foldl_digits]
    exact (Nat.ofDigitChars_toDigits (by decide) (by decide)).symm

end Text
