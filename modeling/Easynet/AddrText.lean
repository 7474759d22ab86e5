import Easynet.DnsServers
/-!
# AddrText — addresses are read from their text

`FromStr` of the addresses of `std::net`, by which the configuration file and the client's part of a handshake read what
`Display` has written.  An IPv6 address has several texts: `Display` leaves out the first of the longest runs of zero
segments, and writes a mapped IPv4 address in dotted form, and the reader fills the segments up from both ends.

What was written is read as the same address (`IpAddr.fromStr_toText`), and a socket address too, but for the flow label that
its text does not have (`SocketAddr.fromStr_toText`).
-/
namespace Easynet

open Scan

/-! ## IPv4 -/

theorem readOctet_toDigits (n : UInt8) {rest : List Char} (h : EndsDigits 10 rest) :
    readOctet (Nat.toDigits 10 n.toNat ++ rest) = some (n.toNat, rest) := by
  refine number_toDigits (by decide) (by decide) n.toNat_lt (fun most hm => ?_) false h
  cases hm
  exact ⟨by decide, Nat.lt_trans n.toNat_lt (by decide)⟩

theorem Ipv4Addr.toList_toText (ip : Ipv4Addr) :
    ip.toText.toList = joined '.' (fun n : UInt8 => Nat.toDigits 10 n.toNat) 0 [ip.a, ip.b, ip.c, ip.d] := by
  have hdot : ".".toList = ['.'] := rfl
  simp [toText, joined, lead, String.toList_append, hdot]

theorem readIpv4Addr_toText (ip : Ipv4Addr) {rest : List Char} (h : EndsDigits 10 rest) :
    readIpv4Addr (ip.toText.toList ++ rest) = some (ip, rest) := by
  have hread : separated '.' readOctet 0 4 (ip.toText.toList ++ rest) =
      some ([ip.a, ip.b, ip.c, ip.d].map UInt8.toNat, rest) := by
    rw [Ipv4Addr.toList_toText]
    refine separated_joined (fun n _ hr => readOctet_toDigits n hr) (fun _ => ?_) [ip.a, ip.b, ip.c, ip.d] 0 h
    exact ends_cons (by decide) _
  rw [readIpv4Addr, hread]
  simp

/-- There is no IPv4 address where the first digits are not followed by a dot. -/
theorem readIpv4Addr_eq_none {text : List Char} (h : Ends (fun c => c = '.') (takeDigits 10 text).2) :
    readIpv4Addr text = none := by
  have hoctet : readOctet text = none ∨ ∃ n, readOctet text = some (n, (takeDigits 10 text).2) := by
    unfold readOctet number
    simp only
    split
    · exact .inl rfl
    · split
      · exact .inl rfl
      · split
        · exact .inr ⟨_, rfl⟩
        · exact .inl rfl
  have hread : separated '.' readOctet 0 4 text = none := by
    rcases hoctet with hn | ⟨n, hn⟩
    · simp [separated, separator, hn]
    · simp [separated, separator, hn, char_eq_none h]
  rw [readIpv4Addr, hread]
  rfl

/-! ## Groups -/

/-- What may follow an address: neither a digit of a group nor a dot. -/
structure Closes (rest : List Char) : Prop where
  digit : EndsDigits 16 rest
  dot : Ends (fun c => c = '.') rest

theorem closes_nil : Closes [] := ⟨ends_nil _, ends_nil _⟩

theorem closes_cons {c : Char} (hdigit : (toDigit 16 c).isSome = false) (hdot : c ≠ '.') (rest : List Char) :
    Closes (c :: rest) :=
  ⟨ends_cons (by rw [hdigit]; exact Bool.false_ne_true) rest, ends_cons (p := fun c => c = '.') hdot rest⟩

theorem isSome_toDigit {c : Char} (h : (toDigit 10 c).isSome = true) : (toDigit 16 c).isSome = true := by
  unfold toDigit at h ⊢
  simp only at h ⊢
  split_ifs at h ⊢ <;> first | rfl | (exfalso; omega) | cases h

theorem Closes.decimal {rest : List Char} (h : Closes rest) : EndsDigits 10 rest :=
  fun c hc hd => h.digit c hc (isSome_toDigit hd)

/-- The digits of a group. -/
def groupDigits (group : UInt16) : List Char := Nat.toDigits 16 group.toNat

theorem readGroup_groupDigits (group : UInt16) {rest : List Char} (h : EndsDigits 16 rest) :
    readGroup (groupDigits group ++ rest) = some (group.toNat, rest) := by
  refine number_toDigits (by decide) (by decide) group.toNat_lt (fun most hm => ?_) true h
  cases hm
  exact ⟨by decide, group.toNat_lt⟩

theorem ne_dot_of_mem_groupDigits {group : UInt16} {c : Char} (h : c ∈ groupDigits group) : c ≠ '.' := by
  obtain ⟨digits, htext, hlt, -⟩ := exists_numeral (show 1 < 16 by decide) group.toNat
  rw [groupDigits, htext] at h
  obtain ⟨d, hd, rfl⟩ := List.mem_map.1 h
  have := hlt d hd
  interval_cases d <;> decide

/-- After the decimal digits of a text without dots there is no dot. -/
theorem ends_dot_takeDigits : ∀ {cs rest : List Char}, (∀ c ∈ cs, c ≠ '.') → Closes rest →
    Ends (fun c => c = '.') (takeDigits 10 (cs ++ rest)).2
  | [], rest, _, hrest => by
    rw [List.nil_append, takeDigits_nil 10 hrest.decimal]
    exact hrest.dot
  | c :: cs, rest, hcs, hrest => by
    rw [List.cons_append, takeDigits]
    split
    · exact ends_dot_takeDigits (fun d hd => hcs d (List.mem_cons_of_mem c hd)) hrest
    · exact ends_cons (p := fun c => c = '.') (hcs c List.mem_cons_self) _

theorem readIpv4Addr_groupDigits (group : UInt16) {rest : List Char} (h : Closes rest) :
    readIpv4Addr (groupDigits group ++ rest) = none :=
  readIpv4Addr_eq_none (ends_dot_takeDigits (fun _ hc => ne_dot_of_mem_groupDigits hc) h)

theorem readIpv4Addr_closes {rest : List Char} (h : Closes rest) : readIpv4Addr rest = none :=
  readIpv4Addr_eq_none (ends_dot_takeDigits (fun c (hc : c ∈ []) => absurd hc List.not_mem_nil) h)

/-- **Groups are read as they were written**, up to the first colon after which there is none. -/
theorem readGroups_joined : ∀ (groups : List UInt16) (slots i : Nat) {rest : List Char}, groups.length ≤ slots →
    Closes rest → (groups.length < slots → ∀ r, rest = ':' :: r → Closes r) →
    readGroups slots i (joined ':' groupDigits i groups ++ rest) = ((groups, false), rest)
  | [], 0, _, _, _, _, _ => rfl
  | [], slots + 1, i, rest, _, hrest, hstop => by
    have hnext := hstop (Nat.succ_pos slots)
    have hipv4 : separator ':' i readIpv4Addr rest = none :=
      separator_eq_none (readIpv4Addr_closes hrest) (fun r hr => readIpv4Addr_closes (hnext r hr))
    have hgroup : separator ':' i readGroup rest = none :=
      separator_eq_none (number_eq_none 16 hrest.digit) (fun r hr => number_eq_none 16 (hnext r hr).digit)
    rw [joined, List.nil_append, readGroups, hipv4, ite_self]
    simp only [hgroup]
  | group :: groups, slots + 1, i, rest, hlen, hrest, hstop => by
    have hlen' : groups.length ≤ slots := Nat.le_of_succ_le_succ hlen
    have hcloses : Closes (joined ':' groupDigits (i + 1) groups ++ rest) := by
      cases groups with
      | nil => exact hrest
      | cons c cs =>
        rw [joined_succ]
        exact closes_cons (by decide) (by decide) _
    have hipv4 : separator ':' i readIpv4Addr (lead ':' i ++ (groupDigits group ++
        (joined ':' groupDigits (i + 1) groups ++ rest))) = none := by
      rw [separator_lead, readIpv4Addr_groupDigits group hcloses]
    have hgroup : separator ':' i readGroup (lead ':' i ++ (groupDigits group ++
        (joined ':' groupDigits (i + 1) groups ++ rest))) =
          some (group.toNat, joined ':' groupDigits (i + 1) groups ++ rest) := by
      rw [separator_lead, readGroup_groupDigits group hcloses.digit]
    have hrec := readGroups_joined groups slots (i + 1) hlen' hrest
      (fun hlt => hstop (by rw [List.length_cons]; omega))
    rw [joined, List.append_assoc, List.append_assoc, readGroups, hipv4, ite_self]
    simp only [hgroup, hrec, UInt16.ofNat_toNat]

/-! ## The zero run that is left out -/

/-- A run of zero segments, as its start and length. -/
def ZeroRun (segments : List UInt16) (run : Nat × Nat) : Prop :=
  ∀ j, run.1 ≤ j → j < run.1 + run.2 → segments[j]? = some 0

theorem zeroRun_empty (segments : List UInt16) (start : Nat) : ZeroRun segments (start, 0) :=
  fun _ hle hlt => absurd (Nat.lt_of_le_of_lt hle hlt) (Nat.lt_irrefl _)

/-- What `zeroes` finds is a run of zeros, as long as what it has so far are runs, the current one up to segment `i`. -/
theorem zeroRun_zeroes (segments : List UInt16) : ∀ (rest : List UInt16) (i : Nat) (current longest : Nat × Nat),
    rest = segments.drop i → ZeroRun segments current → (current.2 = 0 ∨ current.1 + current.2 = i) →
    ZeroRun segments longest → ZeroRun segments (Ipv6Addr.zeroes i current longest rest)
  | [], _, _, _, _, _, _, hlongest => hlongest
  | segment :: rest, i, current, longest, hdrop, hcurrent, hends, hlongest => by
    have hi : segments[i]? = some segment := by
      rw [← List.head?_drop, ← hdrop]
      rfl
    have hrest : rest = segments.drop (i + 1) := by
      rw [← List.tail_drop, ← hdrop]
      rfl
    rw [Ipv6Addr.zeroes]
    split
    · rename_i hzero
      -- the current run takes in this segment
      have hnext : ZeroRun segments (if current.2 = 0 then (i, 1) else (current.1, current.2 + 1)) := by
        split
        · intro j hle hlt
          rw [show j = i by simp only at hle hlt; omega, hi, hzero]
        · intro j hle hlt
          simp only at hle hlt
          rcases Nat.lt_or_ge j (current.1 + current.2) with hj | hj
          · exact hcurrent j hle hj
          · rw [show j = i by omega, hi, hzero]
      have hends' : (if current.2 = 0 then (i, 1) else (current.1, current.2 + 1)).1 +
          (if current.2 = 0 then (i, 1) else (current.1, current.2 + 1)).2 = i + 1 := by
        split
        · rfl
        · simp only
          omega
      simp only
      generalize (if current.2 = 0 then (i, 1) else (current.1, current.2 + 1)) = next at hnext hends' ⊢
      refine zeroRun_zeroes segments rest (i + 1) next _ hrest hnext (Or.inr hends') ?_
      split
      · exact hnext
      · exact hlongest
    · exact zeroRun_zeroes segments rest (i + 1) (0, 0) longest hrest (zeroRun_empty segments 0) (Or.inl rfl) hlongest

theorem ZeroRun.eq {segments : List UInt16} {start len : Nat} (h : ZeroRun segments (start, len)) (hlen : 0 < len) :
    start + len ≤ segments.length ∧
      segments = segments.take start ++ (List.replicate len 0 ++ segments.drop (start + len)) := by
  have hlast := h (start + len - 1) (by simp only; omega) (by simp only; omega)
  have hle : start + len ≤ segments.length := by
    have := (List.getElem?_eq_some_iff.1 hlast).1
    omega
  have hzeros : (segments.drop start).take len = List.replicate len 0 := by
    refine List.ext_getElem? (fun j => ?_)
    rw [List.getElem?_take, List.getElem?_drop, List.getElem?_replicate]
    split
    · exact h (start + j) (by simp only; omega) (by simp only; omega)
    · rfl
  refine ⟨hle, ?_⟩
  rw [← hzeros, ← List.drop_drop, List.take_append_drop, List.take_append_drop]

/-! ## IPv6 -/

theorem Ipv6Addr.ofGroups_segments (ip : Ipv6Addr) : Ipv6Addr.ofGroups ip.segments.toList = ip := by
  obtain ⟨segments⟩ := ip
  rw [Ipv6Addr.ofGroups]
  congr
  ext i hi
  simp

theorem toList_subslice (chunk : List UInt16) : (Ipv6Addr.subslice chunk).toList = joined ':' groupDigits 0 chunk := by
  have hcolon : ":".toList = [':'] := rfl
  rw [joined_eq_intercalate, Ipv6Addr.subslice, String.toList_intercalate, hcolon, List.map_map]
  congr 1
  exact List.map_congr_left (fun g _ => String.toList_ofList)

theorem readIpv6Addr_whole {groups : List UInt16} (hlen : groups.length = 8) {rest : List Char} (h : Closes rest) :
    readIpv6Addr (joined ':' groupDigits 0 groups ++ rest) = some (.ofGroups groups, rest) := by
  have hread := readGroups_joined groups 8 0 (Nat.le_of_eq hlen) h (fun hlt => absurd hlen (Nat.ne_of_lt hlt))
  rw [readIpv6Addr, hread]
  exact if_pos hlen

theorem readIpv6Addr_eq {text rest rest' : List Char} {head tail : List UInt16} {ipv4 : Bool}
    (hhead : readGroups 8 0 text = ((head, false), ':' :: ':' :: rest)) (hlen : head.length ≠ 8)
    (htail : readGroups (8 - (head.length + 1)) 0 rest = ((tail, ipv4), rest')) :
    readIpv6Addr text = some (.ofGroups (head ++ List.replicate (8 - tail.length - head.length) 0 ++ tail), rest') := by
  rw [readIpv6Addr, hhead]
  simp only
  rw [if_neg hlen, if_neg Bool.false_ne_true, char_cons, Option.bind_some, char_cons, Option.map_some, htail]

/-- Groups before and after a run of zeros that is left out. -/
theorem readIpv6Addr_shortened {before after : List UInt16} {len : Nat} (hlen : before.length + len + after.length = 8)
    (hpos : 0 < len) {rest : List Char} (h : Closes rest) (hcolon : Ends (fun c => c = ':') rest) :
    readIpv6Addr (joined ':' groupDigits 0 before ++ (':' :: ':' :: (joined ':' groupDigits 0 after ++ rest))) =
      some (.ofGroups (before ++ List.replicate len 0 ++ after), rest) := by
  have hstart : Closes (':' :: ':' :: (joined ':' groupDigits 0 after ++ rest)) := closes_cons (by decide) (by decide) _
  have hbefore := readGroups_joined before 8 0 (by omega) hstart (fun _ r hr => by
    cases hr
    exact closes_cons (by decide) (by decide) _)
  have hafter := readGroups_joined after (8 - (before.length + 1)) 0 (by omega) h (fun _ r hr => by
    subst hr
    exact absurd rfl (hcolon ':' rfl))
  have hfill : 8 - after.length - before.length = len := by omega
  rw [readIpv6Addr_eq hbefore (by omega) hafter, hfill]

theorem toList_mapped : "::ffff:".toList = ':' :: ':' :: (groupDigits 0xffff ++ [':']) := by decide +kernel

/-- A mapped IPv4 address is read from its dotted text. -/
theorem readIpv6Addr_mapped (ip : Ipv4Addr) {rest : List Char} (h : Closes rest) :
    readIpv6Addr ("::ffff:".toList ++ (ip.toText.toList ++ rest)) =
      some (.ofGroups (List.replicate 5 0 ++ (0xffff :: ip.groups)), rest) := by
  have htext : "::ffff:".toList ++ (ip.toText.toList ++ rest) =
      ':' :: ':' :: (groupDigits 0xffff ++ (':' :: (ip.toText.toList ++ rest))) := by
    rw [toList_mapped]
    simp only [List.cons_append, List.append_assoc, List.nil_append]
  have hhead : readGroups 8 0 (':' :: ':' :: (groupDigits 0xffff ++ (':' :: (ip.toText.toList ++ rest)))) =
      (([], false), ':' :: ':' :: (groupDigits 0xffff ++ (':' :: (ip.toText.toList ++ rest)))) :=
    readGroups_joined [] 8 0 (Nat.zero_le _) (closes_cons (by decide) (by decide) _) (fun _ r hr => by
      cases hr
      exact closes_cons (by decide) (by decide) _)
  -- the group, and behind its colon the address in the place of two
  have hcloses : Closes (':' :: (ip.toText.toList ++ rest)) := closes_cons (by decide) (by decide) _
  have hipv4 : separator ':' 1 readIpv4Addr (':' :: (ip.toText.toList ++ rest)) = some (ip, rest) := by
    rw [separator_succ, readIpv4Addr_toText ip h.decimal]
  have hsix : readGroups 6 1 (':' :: (ip.toText.toList ++ rest)) = ((ip.groups, true), rest) := by
    rw [readGroups, if_pos (by decide), hipv4]
  have hfirst : separator ':' 0 readIpv4Addr (groupDigits 0xffff ++ (':' :: (ip.toText.toList ++ rest))) = none :=
    (separator_zero ':' readIpv4Addr _).trans (readIpv4Addr_groupDigits 0xffff hcloses)
  have hgroup : separator ':' 0 readGroup (groupDigits 0xffff ++ (':' :: (ip.toText.toList ++ rest))) =
      some ((0xffff : UInt16).toNat, ':' :: (ip.toText.toList ++ rest)) :=
    (separator_zero ':' readGroup _).trans (readGroup_groupDigits 0xffff hcloses.digit)
  have hslots : 8 - (([] : List UInt16).length + 1) = 7 := rfl
  have htail : readGroups (8 - (([] : List UInt16).length + 1)) 0
      (groupDigits 0xffff ++ (':' :: (ip.toText.toList ++ rest))) =
      ((0xffff :: ip.groups, true), rest) := by
    rw [hslots, readGroups, hfirst, ite_self]
    simp only [hgroup, hsix, UInt16.ofNat_toNat]
  rw [htext, readIpv6Addr_eq hhead (by decide) htail]
  rfl

theorem toIpv4Mapped_eq_some {ip : Ipv6Addr} {ipv4 : Ipv4Addr} (h : ip.toIpv4Mapped = some ipv4) :
    ip.segments.toList = List.replicate 5 0 ++ (0xffff :: ipv4.groups) := by
  unfold Ipv6Addr.toIpv4Mapped at h
  split at h
  · rename_i x y hsegments
    cases h
    have hword (z : UInt16) :
        UInt16.ofNat (256 * (UInt8.ofNat (z.toNat / 256)).toNat + (UInt8.ofNat z.toNat).toNat) = z := by
      have hz := z.toNat_lt
      rw [UInt8.toNat_ofNat', UInt8.toNat_ofNat', show 256 * (z.toNat / 256 % 2 ^ 8) + z.toNat % 2 ^ 8 = z.toNat by omega,
        UInt16.ofNat_toNat]
    rw [hsegments, Ipv4Addr.groups, hword, hword]
    rfl
  · cases h

/-- **The texts of an IPv6 address**: a mapped IPv4 address, all segments, or all but a run of zeros. -/
theorem Ipv6Addr.toText_cases (ip : Ipv6Addr) :
    (∃ ipv4 : Ipv4Addr, ip.segments.toList = List.replicate 5 0 ++ (0xffff :: ipv4.groups) ∧
      ip.toText.toList = "::ffff:".toList ++ ipv4.toText.toList) ∨
    ip.toText.toList = joined ':' groupDigits 0 ip.segments.toList ∨
    ∃ (before after : List UInt16) (len : Nat), 0 < len ∧ ip.segments.toList = before ++ List.replicate len 0 ++ after ∧
      ip.toText.toList = joined ':' groupDigits 0 before ++ (':' :: ':' :: joined ':' groupDigits 0 after) := by
  unfold Ipv6Addr.toText
  split
  · rename_i ipv4 hmapped
    exact .inl ⟨ipv4, toIpv4Mapped_eq_some hmapped, String.toList_append⟩
  · have hrun := zeroRun_zeroes ip.segments.toList ip.segments.toList 0 (0, 0) (0, 0) rfl (zeroRun_empty _ 0) (Or.inl rfl)
      (zeroRun_empty _ 0)
    simp only
    generalize Ipv6Addr.zeroes 0 (0, 0) (0, 0) ip.segments.toList = run at hrun ⊢
    obtain ⟨start, len⟩ := run
    split
    · rename_i hlen
      have hpos : 0 < len := Nat.lt_trans Nat.zero_lt_one hlen
      have hcolons : "::".toList = [':', ':'] := rfl
      refine .inr (.inr ⟨ip.segments.toList.take start, ip.segments.toList.drop (start + len), len, hpos, ?_, ?_⟩)
      · rw [List.append_assoc]
        exact (hrun.eq hpos).2
      · rw [String.toList_append, String.toList_append, hcolons, toList_subslice, toList_subslice, List.append_assoc]
        rfl
    · exact .inr (.inl (toList_subslice _))

theorem readIpv6Addr_toText (ip : Ipv6Addr) {rest : List Char} (h : Closes rest) (hcolon : Ends (fun c => c = ':') rest) :
    readIpv6Addr (ip.toText.toList ++ rest) = some (ip, rest) := by
  have hlength : ip.segments.toList.length = 8 := by simp
  rcases ip.toText_cases with ⟨ipv4, hsegments, htext⟩ | htext | ⟨before, after, len, hpos, hsegments, htext⟩
  · rw [htext, List.append_assoc, readIpv6Addr_mapped ipv4 h, ← hsegments, Ipv6Addr.ofGroups_segments]
  · rw [htext, readIpv6Addr_whole hlength h, Ipv6Addr.ofGroups_segments]
  · rw [hsegments, List.length_append, List.length_append, List.length_replicate] at hlength
    have hread := readIpv6Addr_shortened hlength hpos h hcolon
    rw [htext, List.append_assoc, List.cons_append, List.cons_append, hread, ← hsegments, Ipv6Addr.ofGroups_segments]

/-- The text of an IPv6 address does not start with that of an IPv4 address. -/
theorem readIpv4Addr_ipv6 (ip : Ipv6Addr) {rest : List Char} (h : Closes rest) :
    readIpv4Addr (ip.toText.toList ++ rest) = none := by
  have hjoined (groups : List UInt16) {text : List Char} (ht : Closes text) :
      readIpv4Addr (joined ':' groupDigits 0 groups ++ text) = none := by
    cases groups with
    | nil => exact readIpv4Addr_closes ht
    | cons group groups =>
      have hcloses : Closes (joined ':' groupDigits 1 groups ++ text) := by
        cases groups with
        | nil => exact ht
        | cons => exact closes_cons (by decide) (by decide) _
      rw [joined, List.append_assoc, List.append_assoc]
      exact readIpv4Addr_groupDigits group hcloses
  rcases ip.toText_cases with ⟨ipv4, -, htext⟩ | htext | ⟨before, after, len, -, -, htext⟩
  · rw [htext, toList_mapped, List.cons_append, List.cons_append]
    exact readIpv4Addr_closes (closes_cons (by decide) (by decide) _)
  · rw [htext]
    exact hjoined _ h
  · rw [htext, List.append_assoc, List.cons_append]
    exact hjoined before (closes_cons (by decide) (by decide) _)

/-! ## The addresses -/

theorem parseWith_ok {α : Type} {inner : Reader α} {s : String} {value : α} (h : inner s.toList = some (value, []))
    (error : String) : parseWith inner error s = .ok value := by
  rw [parseWith, h]

theorem readIpv4Addr_whole (ip : Ipv4Addr) : readIpv4Addr ip.toText.toList = some (ip, []) := by
  have hread := readIpv4Addr_toText ip (ends_nil _)
  rwa [List.append_nil] at hread

theorem Ipv4Addr.parse_toText (ip : Ipv4Addr) : Ipv4Addr.parse ip.toText = some ip := by
  rw [Ipv4Addr.parse, parseWith_ok (readIpv4Addr_whole ip)]
  rfl

/-- **An address is read from its own text.** -/
theorem IpAddr.fromStr_toText (ip : IpAddr) : IpAddr.fromStr ip.toText = .ok ip := by
  refine parseWith_ok ?_ _
  cases ip with
  | v4 ip => rw [readIpAddr, IpAddr.toText, readIpv4Addr_whole]
  | v6 ip =>
    have hipv4 := readIpv4Addr_ipv6 ip closes_nil
    have hread := readIpv6Addr_toText ip closes_nil (ends_nil _)
    rw [List.append_nil] at hipv4 hread
    rw [readIpAddr, IpAddr.toText, hipv4, hread]
    rfl

theorem std_parse (ip : IpAddr) : std.parse ip.toText = .ok ip := by
  rw [std]
  exact IpAddr.fromStr_toText ip

theorem mapM_parse_toText : ∀ ips : List IpAddr, (ips.map IpAddr.toText).mapM std.parse = .ok ips
  | []        => rfl
  | ip :: ips => by
    rw [List.map_cons, List.mapM_cons, std_parse, mapM_parse_toText ips]
    rfl

theorem isWhitespace_toDigits {radix : Nat} (hradix : 1 < radix) (hle : radix ≤ 16) (n : Nat) :
    ∀ c ∈ Nat.toDigits radix n, Text.isWhitespace c = false := by
  obtain ⟨digits, htext, hlt, -⟩ := exists_numeral hradix n
  rw [htext]
  intro c hc
  obtain ⟨d, hd, rfl⟩ := List.mem_map.1 hc
  have hsmall : d < 16 := Nat.lt_of_lt_of_le (hlt d hd) hle
  interval_cases d <;> rfl

theorem isWhitespace_joined {β : Type} {sep : Char} {write : β → List Char} (hsep : Text.isWhitespace sep = false)
    (hwrite : ∀ b, ∀ c ∈ write b, Text.isWhitespace c = false) :
    ∀ (bs : List β) (index : Nat), ∀ c ∈ joined sep write index bs, Text.isWhitespace c = false
  | [], _, c, hc => absurd hc List.not_mem_nil
  | b :: bs, index, c, hc => by
    rw [joined, List.mem_append, List.mem_append] at hc
    rcases hc with hc | hc | hc
    · unfold lead at hc
      split at hc
      · rw [List.mem_singleton.1 hc]
        exact hsep
      · exact absurd hc List.not_mem_nil
    · exact hwrite b c hc
    · exact isWhitespace_joined hsep hwrite bs (index + 1) c hc

/-- The characters of an address are digits, dots and colons. -/
theorem IpAddr.isWhitespace_toText (ip : IpAddr) : ∀ c ∈ ip.toText.toList, Text.isWhitespace c = false := by
  have hipv4 (ip : Ipv4Addr) : ∀ c ∈ ip.toText.toList, Text.isWhitespace c = false := by
    rw [Ipv4Addr.toList_toText]
    exact isWhitespace_joined rfl (fun n : UInt8 => isWhitespace_toDigits (show 1 < 10 by decide) (by decide) n.toNat) _ 0
  have hgroups (groups : List UInt16) : ∀ c ∈ joined ':' groupDigits 0 groups, Text.isWhitespace c = false :=
    isWhitespace_joined rfl (fun group => isWhitespace_toDigits (by decide) (by decide) group.toNat) groups 0
  cases ip with
  | v4 ip => exact hipv4 ip
  | v6 ip =>
    intro c hc
    rw [IpAddr.toText] at hc
    rcases ip.toText_cases with ⟨ipv4, -, htext⟩ | htext | ⟨before, after, len, -, -, htext⟩
    · rw [htext, List.mem_append] at hc
      rcases hc with hc | hc
      · have hmapped : "::ffff:".toList.all (fun c => !Text.isWhitespace c) = true := by decide
        exact Bool.not_eq_true' _ ▸ List.all_eq_true.1 hmapped c hc
      · exact hipv4 ipv4 c hc
    · rw [htext] at hc
      exact hgroups _ c hc
    · rw [htext, List.mem_append, List.mem_cons, List.mem_cons] at hc
      rcases hc with hc | rfl | rfl | hc
      · exact hgroups before c hc
      · rfl
      · rfl
      · exact hgroups after c hc

/-- **Addresses in a list are read from their texts.** -/
theorem parseDnsServers_toText (ips : List IpAddr) : DnsServers.parseDnsServers std (ips.map IpAddr.toText) = .ok ips := by
  have htrim : (ips.map IpAddr.toText).map Text.trim = ips.map IpAddr.toText := by
    rw [List.map_map]
    exact List.map_congr_left (fun ip _ => Text.trim_of_none ip.isWhitespace_toText)
  have hblank : ∀ value ∈ ips.map IpAddr.toText, (!value.isEmpty) = true := by
    intro value hm
    obtain ⟨ip, -, rfl⟩ := List.mem_map.1 hm
    have hread := IpAddr.fromStr_toText ip
    cases hempty : ip.toText.isEmpty with
    | false => rfl
    | true =>
      rw [String.isEmpty_iff.1 hempty] at hread
      cases hread
  rw [DnsServers.parseDnsServers, htrim, List.filter_eq_self.2 hblank, mapM_parse_toText]

/-- The address that the text of an address is of: it has no flow label. -/
def SocketAddr.displayed : SocketAddr → SocketAddr
  | .v4 ip port           => .v4 ip port
  | .v6 ip port _ scopeId => .v6 ip port 0 scopeId

theorem readPort_toDigits (port : UInt16) : readPort (':' :: Nat.toDigits 10 port.toNat) = some (port.toNat, []) := by
  have hread := number_toDigits (show 1 < 10 by decide) (by decide) port.toNat_lt
    (fun most (hm : most ∈ none) => absurd hm (Option.not_mem_none most)) true (ends_nil _)
  rw [List.append_nil] at hread
  rw [readPort, char_cons, Option.bind_some, hread]

/-- What follows the address between the brackets. -/
theorem readSocketAddrV6_eq (ip : Ipv6Addr) (port : UInt16) {text rest : List Char} {scopeId : Nat} (hcloses : Closes rest)
    (hcolon : Ends (fun c => c = ':') rest) (htext : text = '[' :: (ip.toText.toList ++ rest))
    (hscope : (readScopeId rest).getD (0, rest) = (scopeId, ']' :: ':' :: Nat.toDigits 10 port.toNat)) :
    readSocketAddr text = some (.v6 ip port 0 (.ofNat scopeId), []) := by
  have hipv4 : readSocketAddrV4 text = none := by
    rw [readSocketAddrV4, htext, readIpv4Addr_closes (closes_cons (by decide) (by decide) _), Option.bind_none]
  rw [readSocketAddr, hipv4, Option.none_or, readSocketAddrV6, htext, char_cons, Option.bind_some,
    readIpv6Addr_toText ip hcloses hcolon, Option.bind_some]
  simp only [hscope, char_cons, Option.bind_some, readPort_toDigits, Option.map_some, UInt16.ofNat_toNat]

/-- **A socket address is read from its own text**, but for its flow label. -/
theorem SocketAddr.fromStr_toText (addr : SocketAddr) : SocketAddr.fromStr addr.toText = .ok addr.displayed := by
  have hcolon : ":".toList = [':'] := rfl
  have hopen : "[".toList = ['['] := rfl
  have hclose : "]:".toList = [']', ':'] := rfl
  have hpercent : "%".toList = ['%'] := rfl
  refine parseWith_ok ?_ _
  cases addr with
  | v4 ip port =>
    have htext : (SocketAddr.v4 ip port).toText.toList = ip.toText.toList ++ (':' :: Nat.toDigits 10 port.toNat) := by
      simp [SocketAddr.toText, String.toList_append, hcolon]
    have hends : EndsDigits 10 (':' :: Nat.toDigits 10 port.toNat) := ends_cons (by decide) _
    rw [htext, readSocketAddr, readSocketAddrV4, readIpv4Addr_toText ip hends, Option.bind_some]
    simp only [readPort_toDigits, Option.map_some, UInt16.ofNat_toNat]
    rfl
  | v6 ip port flowinfo scopeId =>
    by_cases hzero : scopeId = 0
    · subst hzero
      have hcloses : Closes (']' :: ':' :: Nat.toDigits 10 port.toNat) := closes_cons (by decide) (by decide) _
      refine readSocketAddrV6_eq ip port hcloses (ends_cons (by decide) _) ?_ ?_
      · simp [SocketAddr.toText, String.toList_append, hopen, hclose]
      · rw [readScopeId, char_eq_none (ends_cons (by decide) _)]
        rfl
    · have hcloses : Closes ('%' :: (Nat.toDigits 10 scopeId.toNat ++ (']' :: ':' :: Nat.toDigits 10 port.toNat))) :=
        closes_cons (by decide) (by decide) _
      have hread := number_toDigits (show 1 < 10 by decide) (by decide) scopeId.toNat_lt
        (fun most (hm : most ∈ none) => absurd hm (Option.not_mem_none most)) true
        (ends_cons (by decide) (':' :: Nat.toDigits 10 port.toNat) : EndsDigits 10 (']' :: _))
      have hv6 := readSocketAddrV6_eq ip port hcloses (ends_cons (by decide) _) rfl (by
        rw [readScopeId, char_cons, Option.bind_some]
        exact congrArg (Option.getD · _) hread)
      rw [UInt32.ofNat_toNat] at hv6
      have htext : (SocketAddr.v6 ip port flowinfo scopeId).toText.toList = '[' :: (ip.toText.toList ++
          ('%' :: (Nat.toDigits 10 scopeId.toNat ++ (']' :: ':' :: Nat.toDigits 10 port.toNat)))) := by
        simp [SocketAddr.toText, String.toList_append, hzero, hopen, hclose, hpercent]
      rw [htext, hv6]
      rfl

/-- What is read has no flow label. -/
theorem SocketAddr.displayed_of_fromStr {s : String} {addr : SocketAddr} (h : SocketAddr.fromStr s = .ok addr) :
    addr.displayed = addr := by
  unfold SocketAddr.fromStr parseWith at h
  split at h
  · rename_i value hread
    cases h
    rcases Option.or_eq_some_iff.1 hread with hread | ⟨-, hread⟩
    · obtain ⟨⟨ip, text⟩, -, hread⟩ := Option.bind_eq_some_iff.1 hread
      obtain ⟨⟨port, rest⟩, -, hread⟩ := Option.map_eq_some_iff.1 hread
      cases hread
      rfl
    · obtain ⟨p, -, hread⟩ := Option.bind_eq_some_iff.1 hread
      obtain ⟨⟨ip, text⟩, -, hread⟩ := Option.bind_eq_some_iff.1 hread
      simp only at hread
      obtain ⟨q, -, hread⟩ := Option.bind_eq_some_iff.1 hread
      obtain ⟨⟨port, rest⟩, -, hread⟩ := Option.map_eq_some_iff.1 hread
      cases hread
      rfl
  · cases h

end Easynet
