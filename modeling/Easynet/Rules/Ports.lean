import Easynet.Rules.Matcher
/-!
# Ports — what the text of a port condition says

The text of a `SRC-PORT` or `DST-PORT` condition is a port or two ports with a dash between them.  `PortSpec` is that
grammar with the ports it stands for; `parsePortRange` reads just these texts, and a port condition holds for the packets
whose port is in the interval, ends included.
-/
namespace Easynet

/-- A `u16` in decimal. -/
def PortNumeral (s : String) (n : Nat) : Prop := Text.IsNumeral s n ∧ n ≤ 65535

/-- A port, or the ports from one to another that is not before it. -/
def PortSpec (s : String) (start stop : Nat) : Prop :=
  (PortNumeral s start ∧ start = stop) ∨
    ∃ first last, s = first ++ "-" ++ last ∧ PortNumeral first start ∧ PortNumeral last stop ∧ start ≤ stop

theorem parseU16_eq_some {s : String} {port : UInt16} : parseU16 s = some port ↔ PortNumeral s port.toNat := by
  rw [parseU16, Option.map_eq_some_iff, PortNumeral]
  constructor
  · rintro ⟨n, hn, rfl⟩
    obtain ⟨hnum, hlt⟩ := Text.parseUnsigned_eq_some.1 hn
    rw [UInt16.toNat_ofNat_of_lt' hlt]
    exact ⟨hnum, Nat.le_of_lt_succ hlt⟩
  · rintro ⟨hnum, hle⟩
    exact ⟨port.toNat, Text.parseUnsigned_eq_some.2 ⟨hnum, Nat.lt_succ_of_le hle⟩, UInt16.ofNat_toNat⟩

theorem PortNumeral.notMem_dash {s : String} {n : Nat} (h : PortNumeral s n) : '-' ∉ s.toList := by
  obtain ⟨⟨digits, hs, -, hall, -⟩, -⟩ := h
  have hdigits : '-' ∉ digits := fun hm => absurd (hall '-' hm) (by decide)
  rcases hs with hs | hs
  · rw [hs]; exact hdigits
  · rw [hs, List.mem_cons, not_or]
    exact ⟨by decide, hdigits⟩

theorem PortNumeral.parseU16 {s : String} {port : UInt16} (h : PortNumeral s port.toNat) : Easynet.parseU16 s = some port :=
  parseU16_eq_some.2 h

theorem contains_dash {s : String} : Text.contains s "-" = true ↔ '-' ∈ s.toList := by
  have hdash : "-" = String.singleton '-' := by decide
  rw [hdash, Text.contains_singleton]

theorem portSpec_of_parsePortRange {s : String} {start stop : UInt16} (h : parsePortRange s = .ok (start, stop)) :
    PortSpec s start.toNat stop.toNat := by
  unfold parsePortRange at h
  split at h
  · split at h
    · rename_i first last hsplit
      obtain ⟨hs, -, -⟩ := Text.split_eq_pair.1 hsplit
      split at h
      · cases h
      · rename_i hfirst
        split at h
        · cases h
        · rename_i hlast
          split at h
          · cases h
          · rename_i hle
            cases h
            exact Or.inr ⟨first, last, hs, parseU16_eq_some.1 hfirst, parseU16_eq_some.1 hlast,
              UInt16.le_iff_toNat_le.1 (UInt16.not_lt.1 hle)⟩
    · cases h
  · split at h
    · cases h
    · rename_i hport
      cases h
      exact Or.inl ⟨parseU16_eq_some.1 hport, rfl⟩

theorem parsePortRange_of_portSpec {s : String} {start stop : UInt16} (h : PortSpec s start.toNat stop.toNat) :
    parsePortRange s = .ok (start, stop) := by
  unfold parsePortRange
  rcases h with ⟨hport, he⟩ | ⟨first, last, hs, hfirst, hlast, hle⟩
  · have hdash : ¬ Text.contains s "-" = true := fun hc => hport.notMem_dash (contains_dash.1 hc)
    rw [if_neg hdash, hport.parseU16, UInt16.toNat_inj.1 he]
  · have hmem : '-' ∈ s.toList := by
      rw [hs, String.toList_append, String.toList_append]
      exact List.mem_append_left _ (List.mem_append_right _ (by decide))
    have hdash : Text.contains s "-" = true := contains_dash.2 hmem
    have hsplit : Text.split '-' s = [first, last] :=
      Text.split_eq_pair.2 ⟨hs, hfirst.notMem_dash, hlast.notMem_dash⟩
    have hnlt : ¬ stop < start := UInt16.not_lt.2 (UInt16.le_iff_toNat_le.2 hle)
    simp only [hdash, hsplit, hfirst.parseU16, hlast.parseU16, if_true, if_neg hnlt]

theorem parsePortRange_eq_ok {s : String} {start stop : UInt16} :
    parsePortRange s = .ok (start, stop) ↔ PortSpec s start.toNat stop.toNat :=
  ⟨portSpec_of_parsePortRange, parsePortRange_of_portSpec⟩

theorem PortSpec.le {s : String} {start stop : Nat} (h : PortSpec s start stop) : start ≤ 65535 ∧ stop ≤ 65535 := by
  rcases h with ⟨hport, rfl⟩ | ⟨first, last, -, hfirst, hlast, -⟩
  · exact ⟨hport.2, hport.2⟩
  · exact ⟨hfirst.2, hlast.2⟩

theorem matchesPort_eq_true {s : String} {port : Option UInt16} :
    Matcher.matchesPort s port = true ↔
      ∃ p start stop, port = some p ∧ parsePortRange s = .ok (start, stop) ∧ start ≤ p ∧ p ≤ stop := by
  unfold Matcher.matchesPort
  cases port with
  | none => simp
  | some p =>
    cases hs : parsePortRange s with
    | error e => simp
    | ok range =>
      obtain ⟨start, stop⟩ := range
      constructor
      · intro h
        obtain ⟨hstart, hstop⟩ := of_decide_eq_true h
        exact ⟨p, start, stop, rfl, rfl, hstart, hstop⟩
      · rintro ⟨_, _, _, hp, he, hstart, hstop⟩
        cases hp
        cases he
        exact decide_eq_true ⟨hstart, hstop⟩

/-- **A text is read as an interval of ports exactly if it is a port numeral or two of them, in order, with a dash between
them**; any other is an error, and the condition holds for the packets whose port is in the interval. -/
theorem port_condition (s : String) :
    (∀ start stop : UInt16, parsePortRange s = .ok (start, stop) ↔ PortSpec s start.toNat stop.toNat) ∧
    ((∀ start stop, ¬ PortSpec s start stop) → ∃ e, parsePortRange s = .error e) ∧
    (∀ port : Option UInt16, Matcher.matchesPort s port = true ↔
      ∃ p start stop, port = some p ∧ PortSpec s start stop ∧ start ≤ p.toNat ∧ p.toNat ≤ stop) := by
  refine ⟨fun start stop => parsePortRange_eq_ok, fun hnone => ?_, fun port => ?_⟩
  · cases hs : parsePortRange s with
    | error e => exact ⟨e, rfl⟩
    | ok range => exact absurd (parsePortRange_eq_ok.1 hs) (hnone _ _)
  · rw [matchesPort_eq_true]
    constructor
    · rintro ⟨p, start, stop, hp, hs, hstart, hstop⟩
      exact ⟨p, start.toNat, stop.toNat, hp, parsePortRange_eq_ok.1 hs, hstart, hstop⟩
    · rintro ⟨p, start, stop, hp, hspec, hstart, hstop⟩
      obtain ⟨hlo, hhi⟩ := hspec.le
      have hs : (UInt16.ofNat start).toNat = start := UInt16.toNat_ofNat_of_lt' (Nat.lt_succ_of_le hlo)
      have he : (UInt16.ofNat stop).toNat = stop := UInt16.toNat_ofNat_of_lt' (Nat.lt_succ_of_le hhi)
      refine ⟨p, .ofNat start, .ofNat stop, hp, parsePortRange_eq_ok.2 (by rwa [hs, he]), ?_, ?_⟩
      · rwa [UInt16.le_iff_toNat_le, hs]
      · rwa [UInt16.le_iff_toNat_le, he]

example : parsePortRange "+8000-09000" = .ok (8000, 9000) := by decide +kernel

example : (parsePortRange "1-2-3").toOption = none := by decide +kernel

end Easynet
