import Easynet.Lib.Machine
import Easynet.Lib.Table
import Easynet.Lib.Text
import Easynet.Lib.Timed
import Easynet.Net
/-!
# DomainCache — the names an address was resolved from

The cache keeps, for each address, the names it was resolved from with the time they expire.  An insert sets the time of a
name, a look-up drops what has expired and returns the rest, and nothing is dropped otherwise.  What it is for is a map
from addresses and names to deadlines: the deadline that the last insert set.

Times are counted from some origin, in nanoseconds.  `Instant + Duration` panics if the sum is past the last instant that
the platform can represent.
-/
namespace Easynet

open Machine (exec)

structure DomainEntry where
  domain : String
  expiresAt : Nat
  deriving DecidableEq, Repr

structure DomainCache where
  entries : AList (fun _ : Ipv4Addr => List DomainEntry)

def normalizeDomain (value : String) : Option String :=
  let value := Text.toAsciiLowercase (Text.trimEndMatches '.' (Text.trim value))
  if value.isEmpty then none else some value

/-- `Instant + Duration`. -/
def instantAdd (lastInstant now ttl : Nat) : Option Nat := if now + ttl ≤ lastInstant then some (now + ttl) else none

inductive CacheOp
  | insert (ip : Ipv4Addr) (domain : String) (ttl : Nat)
  | lookup (ip : Ipv4Addr)
  deriving DecidableEq, Repr

def CacheOp.ip : CacheOp → Ipv4Addr
  | .insert ip _ _ => ip
  | .lookup ip     => ip

namespace DomainCache

def new : DomainCache := ⟨∅⟩

/-- `insert`, or `none` if it panics. -/
def insert (lastInstant now : Nat) (cache : DomainCache) (ip : Ipv4Addr) (domain : String) (ttl : Nat) :
    Option DomainCache :=
  if ttl = 0 then some cache
  else match normalizeDomain domain with
    | none => some cache
    | some domain =>
      (instantAdd lastInstant now ttl).map (fun expiresAt =>
        -- `or_default`, then the expiry of the first entry with this name, or a new entry
        let entries := (cache.entries.lookup ip).getD []
        ⟨cache.entries.insert ip (Timed.put DomainEntry.domain ⟨domain, expiresAt⟩ entries)⟩)

def lookup (now : Nat) (cache : DomainCache) (ip : Ipv4Addr) : List String × DomainCache :=
  match cache.entries.lookup ip with
  | none => ([], cache)
  | some entries =>
    let entries := entries.filter (fun entry => decide (now < entry.expiresAt))
    let cache := if entries.isEmpty then ⟨cache.entries.erase ip⟩ else ⟨cache.entries.insert ip entries⟩
    (entries.map DomainEntry.domain, cache)

/-- An operation at a time. -/
def apply (lastInstant : Nat) (cache : DomainCache) : Nat × CacheOp → Option DomainCache
  | (now, .insert ip domain ttl) => insert lastInstant now cache ip domain ttl
  | (now, .lookup ip)            => some (lookup now cache ip).2

/-- What a look-up returns after some operations on a new cache. -/
def answer (lastInstant : Nat) (ops : List (Nat × CacheOp)) (now : Nat) (ip : Ipv4Addr) : Option (List String) :=
  (exec (apply lastInstant) new ops).map (fun cache => (lookup now cache ip).1)

/-! ## What the cache is for -/

/-- The time and the ttl of an insert of this name for this address, unless the ttl is zero. -/
def inserted (ip : Ipv4Addr) (domain : String) : Nat × CacheOp → Option (Nat × Nat)
  | (now, .insert ip' raw ttl) =>
    if ip' = ip ∧ ttl ≠ 0 ∧ normalizeDomain raw = some domain then some (now, ttl) else none
  | _ => none

/-- **The name is live for the address**: the latest insert has a deadline that has not come. -/
def Live (ops : List (Nat × CacheOp)) (ip : Ipv4Addr) (domain : String) (now : Nat) : Prop :=
  ∃ t₀ ttl, (ops.filterMap (inserted ip domain)).getLast? = some (t₀, ttl) ∧ now < t₀ + ttl

/-- The deadline of an insert that is not ignored is an instant. -/
def Fits (lastInstant : Nat) : Nat × CacheOp → Prop
  | (now, .insert _ domain ttl) => ttl = 0 ∨ normalizeDomain domain = none ∨ now + ttl ≤ lastInstant
  | _                           => True

/-! ## One address -/

def bucket (cache : DomainCache) (ip : Ipv4Addr) : List DomainEntry := (cache.entries.lookup ip).getD []

/-- What an operation does to the entries of its address. -/
def bucketStep (entries : List DomainEntry) : Nat × CacheOp → List DomainEntry
  | (now, .insert _ domain ttl) =>
    if ttl = 0 then entries
    else match normalizeDomain domain with
      | none        => entries
      | some domain => Timed.put DomainEntry.domain ⟨domain, now + ttl⟩ entries
  | (now, .lookup _) => entries.filter (fun entry => decide (now < entry.expiresAt))

theorem bucketStep_ignored {raw : String} {ttl : Nat} (h : ttl = 0 ∨ normalizeDomain raw = none) {now : Nat} {ip : Ipv4Addr}
    {entries : List DomainEntry} : bucketStep entries (now, .insert ip raw ttl) = entries := by
  rw [bucketStep]
  by_cases hz : ttl = 0
  · rw [if_pos hz]
  · rw [if_neg hz, h.resolve_left hz]

theorem bucketStep_insert {raw name : String} {ttl : Nat} (hz : ttl ≠ 0) (hn : normalizeDomain raw = some name) {now : Nat}
    {ip : Ipv4Addr} {entries : List DomainEntry} : bucketStep entries (now, .insert ip raw ttl) =
      Timed.put DomainEntry.domain ⟨name, now + ttl⟩ entries := by
  rw [bucketStep, if_neg hz, hn]

theorem lookup_fst (now : Nat) (cache : DomainCache) (ip : Ipv4Addr) : (lookup now cache ip).1 =
    ((cache.bucket ip).filter (fun entry => decide (now < entry.expiresAt))).map DomainEntry.domain := by
  unfold lookup bucket
  cases cache.entries.lookup ip <;> rfl

theorem bucket_lookup (now : Nat) (cache : DomainCache) (ip ip' : Ipv4Addr) : (lookup now cache ip).2.bucket ip' =
    if ip = ip' then (cache.bucket ip').filter (fun entry => decide (now < entry.expiresAt)) else cache.bucket ip' := by
  unfold lookup
  cases hl : cache.entries.lookup ip with
  | none =>
    by_cases h : ip = ip'
    · subst h
      simp [bucket, hl]
    · rw [if_neg h]
  | some entries =>
    simp only
    by_cases h : ip = ip'
    · subst h
      rw [if_pos rfl]
      split
      · rename_i hempty
        rw [bucket, Table.lookup_erase_eq, if_pos rfl, bucket, hl]
        exact (List.isEmpty_iff.1 hempty).symm
      · rw [bucket, Table.lookup_insert_eq, if_pos rfl, bucket, hl]
        rfl
    · rw [if_neg h]
      split
      · rw [bucket, Table.lookup_erase_eq, if_neg (Ne.symm h), bucket]
      · rw [bucket, Table.lookup_insert_eq, if_neg (Ne.symm h), bucket]

/-- **An operation changes the entries of its address only.** -/
theorem bucket_apply {lastInstant : Nat} {cache cache' : DomainCache} {op : Nat × CacheOp}
    (h : apply lastInstant cache op = some cache') (ip : Ipv4Addr) :
    cache'.bucket ip = if op.2.ip = ip then bucketStep (cache.bucket ip) op else cache.bucket ip := by
  obtain ⟨now, op⟩ := op
  cases op with
  | lookup ip₀ =>
    cases h
    exact bucket_lookup now cache ip₀ ip
  | insert ip₀ raw ttl =>
    replace h : insert lastInstant now cache ip₀ raw ttl = some cache' := h
    have hsame : cache.bucket ip = if ip₀ = ip then cache.bucket ip else cache.bucket ip := (ite_self _).symm
    unfold insert at h
    split at h
    · rename_i hz
      cases h
      rw [bucketStep_ignored (Or.inl hz)]
      exact hsame
    · rename_i hz
      split at h
      · rename_i hn
        cases h
        rw [bucketStep_ignored (Or.inr hn)]
        exact hsame
      · rename_i domain hn
        obtain ⟨expiresAt, hadd, rfl⟩ := Option.map_eq_some_iff.1 h
        unfold instantAdd at hadd
        split at hadd
        · cases hadd
          rw [bucketStep_insert hz hn, bucket, Table.lookup_insert_eq]
          by_cases hip : ip₀ = ip
          · subst hip
            rw [if_pos rfl]
            exact (if_pos rfl).symm
          · rw [if_neg (Ne.symm hip)]
            exact (if_neg hip).symm
        · cases hadd

theorem apply_isSome {lastInstant : Nat} {cache : DomainCache} {op : Nat × CacheOp} :
    (apply lastInstant cache op).isSome = true ↔ Fits lastInstant op := by
  obtain ⟨now, op⟩ := op
  cases op with
  | lookup ip => simp [apply, Fits]
  | insert ip raw ttl =>
    unfold apply insert Fits
    by_cases hz : ttl = 0
    · simp [hz]
    · cases hn : normalizeDomain raw with
      | none => simp [hz, hn]
      | some domain =>
        unfold instantAdd
        by_cases hfit : now + ttl ≤ lastInstant
        · simp [hz, hn, hfit]
        · simp [hz, hn, hfit]

/-- The operations run to their end exactly if every deadline is an instant. -/
theorem exec_isSome {lastInstant : Nat} : ∀ {ops : List (Nat × CacheOp)} {cache : DomainCache},
    (exec (apply lastInstant) cache ops).isSome = true ↔ ∀ op ∈ ops, Fits lastInstant op
  | [], cache => by simp
  | op :: ops, cache => by
    rw [Machine.exec_cons, List.forall_mem_cons, ← @apply_isSome lastInstant cache op]
    cases happ : apply lastInstant cache op with
    | none => simp
    | some cache' => simpa using exec_isSome

/-! ## The cache and the map of deadlines -/

/-- The deadline that the latest insert has set. -/
def deadline (ops : List (Nat × CacheOp)) (ip : Ipv4Addr) (domain : String) : Option Nat :=
  (ops.filterMap (inserted ip domain)).getLast?.map (fun q => q.1 + q.2)

theorem live_iff {ops : List (Nat × CacheOp)} {ip : Ipv4Addr} {domain : String} {now : Nat} :
    Live ops ip domain now ↔ Timed.LiveAt now (deadline ops ip domain) := by
  constructor
  · rintro ⟨t₀, ttl, hlast, hlt⟩
    exact ⟨t₀ + ttl, by rw [deadline, hlast]; rfl, hlt⟩
  · rintro ⟨at', hd, hlt⟩
    obtain ⟨⟨t₀, ttl⟩, hlast, rfl⟩ := Option.map_eq_some_iff.1 hd
    exact ⟨t₀, ttl, hlast, hlt⟩

theorem deadline_snoc (ops : List (Nat × CacheOp)) (op : Nat × CacheOp) (ip : Ipv4Addr) (domain : String) :
    deadline (ops ++ [op]) ip domain =
      ((inserted ip domain op).map (fun q => q.1 + q.2)).or (deadline ops ip domain) := by
  unfold deadline
  cases hi : inserted ip domain op with
  | none => rw [Machine.filterMap_snoc_none hi]; rfl
  | some q => rw [Machine.filterMap_snoc_some hi, List.getLast?_concat]; rfl

/-- **The cache stands for the deadlines from `now` on**: it has a name once for each address, and the names that have not
expired are the live ones. -/
structure Represents (ops : List (Nat × CacheOp)) (now : Nat) (cache : DomainCache) : Prop where
  nodup : ∀ ip, ((cache.bucket ip).map DomainEntry.domain).Nodup
  live : ∀ ip domain t, now ≤ t →
    (Timed.LiveAt t (Timed.deadlineOf DomainEntry.domain DomainEntry.expiresAt (cache.bucket ip) domain) ↔
      Timed.LiveAt t (deadline ops ip domain))

theorem Represents.mono {ops : List (Nat × CacheOp)} {now now' : Nat} {cache : DomainCache}
    (hr : Represents ops now cache) (h : now ≤ now') : Represents ops now' cache :=
  ⟨hr.nodup, fun ip domain t ht => hr.live ip domain t (Nat.le_trans h ht)⟩

theorem represents_new : Represents [] 0 new :=
  ⟨fun _ => List.nodup_nil, fun _ _ _ _ => Iff.rfl⟩

theorem nodup_bucketStep {entries : List DomainEntry} (hn : (entries.map DomainEntry.domain).Nodup) (op : Nat × CacheOp) :
    ((bucketStep entries op).map DomainEntry.domain).Nodup := by
  unfold bucketStep
  split
  · split
    · exact hn
    · split
      · exact hn
      · exact Timed.nodup_put hn _
  · exact hn.sublist (List.filter_sublist.map _)

theorem inserted_ignored {raw : String} {ttl : Nat} (h : ttl = 0 ∨ normalizeDomain raw = none) {now : Nat}
    {ip ip' : Ipv4Addr} {domain : String} : inserted ip domain (now, .insert ip' raw ttl) = none := by
  refine if_neg (fun hc => ?_)
  rcases h with hz | hn
  · exact hc.2.1 hz
  · cases hn.symm.trans hc.2.2

theorem inserted_insert {raw name : String} {ttl : Nat} (hz : ttl ≠ 0) (hn : normalizeDomain raw = some name) {now : Nat}
    {ip : Ipv4Addr} {domain : String} :
    inserted ip domain (now, .insert ip raw ttl) = if name = domain then some (now, ttl) else none := by
  rw [inserted]
  by_cases hd : name = domain
  · rw [if_pos hd, if_pos ⟨rfl, hz, hd ▸ hn⟩]
  · rw [if_neg hd, if_neg (fun hc => hd (Option.some.inj (hn.symm.trans hc.2.2)))]

theorem inserted_of_ne {op : Nat × CacheOp} {ip : Ipv4Addr} (h : op.2.ip ≠ ip) (domain : String) :
    inserted ip domain op = none := by
  unfold inserted
  split
  · exact if_neg (fun hc => h hc.1)
  · rfl

/-- An operation does to the entries of its address what it does to the deadlines. -/
theorem liveAt_bucketStep {entries : List DomainEntry} (hn : (entries.map DomainEntry.domain).Nodup) {op : Nat × CacheOp}
    {ip : Ipv4Addr} (hip : op.2.ip = ip) {domain : String} {t : Nat} (ht : op.1 ≤ t) {d : Option Nat}
    (hlive : Timed.LiveAt t (Timed.deadlineOf DomainEntry.domain DomainEntry.expiresAt entries domain) ↔
      Timed.LiveAt t d) :
    Timed.LiveAt t (Timed.deadlineOf DomainEntry.domain DomainEntry.expiresAt (bucketStep entries op) domain) ↔
      Timed.LiveAt t (((inserted ip domain op).map (fun q => q.1 + q.2)).or d) := by
  obtain ⟨now, op⟩ := op
  cases op with
  | lookup ip₀ =>
    show Timed.LiveAt t (Timed.deadlineOf _ _ (entries.filter _) domain) ↔ Timed.LiveAt t d
    rw [Timed.deadlineOf_filter domain hn, Timed.liveAt_filter ht]
    exact hlive
  | insert ip₀ raw ttl =>
    obtain rfl : ip₀ = ip := hip
    by_cases hignored : ttl = 0 ∨ normalizeDomain raw = none
    · rw [bucketStep_ignored hignored, inserted_ignored hignored]
      exact hlive
    · rw [not_or] at hignored
      obtain ⟨name, hname⟩ := Option.ne_none_iff_exists'.1 hignored.2
      rw [bucketStep_insert hignored.1 hname, Timed.deadlineOf_put, inserted_insert hignored.1 hname]
      by_cases hd : name = domain
      · rw [if_pos hd, if_pos hd]
        exact Iff.rfl
      · rw [if_neg hd, if_neg hd]
        exact hlive

/-- **Each operation keeps the correspondence.** -/
theorem Represents.step {ops : List (Nat × CacheOp)} {op : Nat × CacheOp} {cache cache' : DomainCache} {lastInstant : Nat}
    (hr : Represents ops op.1 cache) (h : apply lastInstant cache op = some cache') :
    Represents (ops ++ [op]) op.1 cache' := by
  refine ⟨fun ip => ?_, fun ip domain t ht => ?_⟩
  · rw [bucket_apply h]
    split
    · exact nodup_bucketStep (hr.nodup ip) op
    · exact hr.nodup ip
  · rw [bucket_apply h, deadline_snoc]
    by_cases hip : op.2.ip = ip
    · rw [if_pos hip]
      exact liveAt_bucketStep (hr.nodup ip) hip ht (hr.live ip domain t ht)
    · rw [if_neg hip, inserted_of_ne hip]
      exact hr.live ip domain t ht

theorem represents_exec {lastInstant : Nat} {cache : DomainCache} {ops : List (Nat × CacheOp)} {now : Nat}
    (htimes : ops.Pairwise (fun a b => a.1 ≤ b.1)) (hnow : ∀ op ∈ ops, op.1 ≤ now)
    (he : exec (apply lastInstant) new ops = some cache) : Represents ops now cache := by
  induction ops using List.reverseRecOn generalizing cache now with
  | nil =>
    cases he
    exact represents_new.mono (Nat.zero_le now)
  | append_singleton ops op ih =>
    rw [Machine.exec_append, Option.bind_eq_some_iff] at he
    obtain ⟨cache₀, he₀, he⟩ := he
    obtain ⟨cache₁, hop, hnil⟩ := Option.bind_eq_some_iff.1 he
    cases Option.some.inj hnil
    rw [List.pairwise_append] at htimes
    have hbefore : ∀ op' ∈ ops, op'.1 ≤ op.1 := fun op' hm => htimes.2.2 op' hm op List.mem_cons_self
    have hlast : op.1 ≤ now := hnow op (List.mem_append_right _ List.mem_cons_self)
    exact ((ih htimes.1 hbefore he₀).step hop).mono hlast

/-- The operations on other addresses change nothing for an address. -/
theorem exec_filter {lastInstant : Nat} {ip : Ipv4Addr} : ∀ {ops : List (Nat × CacheOp)} {cache₁ cache₂ cache : DomainCache},
    cache₁.bucket ip = cache₂.bucket ip → exec (apply lastInstant) cache₁ ops = some cache →
    ∃ cache', exec (apply lastInstant) cache₂ (ops.filter (fun op => decide (op.2.ip = ip))) = some cache' ∧
      cache'.bucket ip = cache.bucket ip
  | [], cache₁, cache₂, cache, hsame, he => by
    cases he
    exact ⟨cache₂, rfl, hsame.symm⟩
  | op :: ops, cache₁, cache₂, cache, hsame, he => by
    rw [Machine.exec_cons, Option.bind_eq_some_iff] at he
    obtain ⟨cache₁', hop, he⟩ := he
    have hbucket := bucket_apply hop ip
    by_cases hip : op.2.ip = ip
    · have hfits : (apply lastInstant cache₂ op).isSome = true := apply_isSome.2 (apply_isSome.1 (by rw [hop]; rfl))
      obtain ⟨cache₂', hop'⟩ := Option.isSome_iff_exists.1 hfits
      have hbucket' := bucket_apply hop' ip
      rw [if_pos hip] at hbucket hbucket'
      obtain ⟨cache', he', hfinal⟩ := exec_filter (hbucket.trans (hsame ▸ hbucket'.symm)) he
      refine ⟨cache', ?_, hfinal⟩
      rw [List.filter_cons, if_pos (decide_eq_true hip), Machine.exec_cons, hop']
      exact he'
    · rw [if_neg hip] at hbucket
      obtain ⟨cache', he', hfinal⟩ := exec_filter (hbucket.trans hsame) he
      refine ⟨cache', ?_, hfinal⟩
      rw [List.filter_cons, if_neg (by rwa [decide_eq_true_eq])]
      exact he'

/-- A look-up that is reached returns the live names, each once. -/
theorem answer_live {lastInstant : Nat} {ops : List (Nat × CacheOp)} {now : Nat}
    (htimes : ops.Pairwise (fun a b => a.1 ≤ b.1)) (hnow : ∀ op ∈ ops, op.1 ≤ now) {ip : Ipv4Addr} {domains : List String}
    (ha : answer lastInstant ops now ip = some domains) :
    domains.Nodup ∧ ∀ domain, domain ∈ domains ↔ Live ops ip domain now := by
  obtain ⟨cache, he, rfl⟩ := Option.map_eq_some_iff.1 ha
  have hr := represents_exec htimes hnow he
  refine ⟨?_, fun domain => ?_⟩
  · rw [lookup_fst]
    exact (hr.nodup ip).sublist (List.filter_sublist.map _)
  · rw [lookup_fst, Timed.mem_live_iff (hr.nodup ip), live_iff]
    exact hr.live ip domain now (Nat.le_refl now)

theorem answer_isSome {lastInstant : Nat} {ops : List (Nat × CacheOp)} {now : Nat} {ip : Ipv4Addr} :
    (∃ domains, answer lastInstant ops now ip = some domains) ↔ ∀ op ∈ ops, Fits lastInstant op := by
  rw [← @exec_isSome lastInstant ops new, ← Option.isSome_iff_exists, answer, Option.isSome_map]

/-- **A look-up returns exactly the live names, each once, and the operations on other addresses do not matter**, if and
only if the deadline of every insert that is not ignored is an instant. -/
theorem answer_iff (lastInstant : Nat) {ops : List (Nat × CacheOp)} {now : Nat}
    (htimes : ops.Pairwise (fun a b => a.1 ≤ b.1)) (hnow : ∀ op ∈ ops, op.1 ≤ now) (ip : Ipv4Addr) :
    (∃ domains, answer lastInstant ops now ip = some domains ∧ domains.Nodup ∧
      (∀ domain, domain ∈ domains ↔ Live ops ip domain now) ∧
      answer lastInstant (ops.filter (fun op => decide (op.2.ip = ip))) now ip = some domains) ↔
    ∀ op ∈ ops, Fits lastInstant op := by
  rw [← @answer_isSome lastInstant ops now ip]
  constructor
  · rintro ⟨domains, ha, -⟩
    exact ⟨domains, ha⟩
  · rintro ⟨domains, ha⟩
    obtain ⟨hnodup, hlive⟩ := answer_live htimes hnow ha
    refine ⟨domains, ha, hnodup, hlive, ?_⟩
    obtain ⟨cache, he, rfl⟩ := Option.map_eq_some_iff.1 ha
    obtain ⟨cache', he', hbucket⟩ := exec_filter rfl he
    rw [answer, he', Option.map_some, lookup_fst, lookup_fst, hbucket]

/-- The last instant of a platform that counts seconds in an `i64`. -/
def lastInstantI64 : Nat := 9223372036854775807999999999

/-- A name is resolved, another address is looked at, and the name is resolved again with a shorter ttl. -/
def resolved : List (Nat × CacheOp) :=
  [(0, .insert (.new 1 2 3 4) "Example.COM." 60), (1, .lookup (.new 5 6 7 8)), (2, .insert (.new 1 2 3 4) "example.com" 10)]

theorem answer_resolved :
    (∃ domains, answer lastInstantI64 resolved 11 (.new 1 2 3 4) = some domains ∧ domains.Nodup ∧
      (∀ domain, domain ∈ domains ↔ Live resolved (.new 1 2 3 4) domain 11) ∧
      answer lastInstantI64 (resolved.filter (fun op => decide (op.2.ip = .new 1 2 3 4))) 11 (.new 1 2 3 4) = some domains) ∧
    answer lastInstantI64 resolved 11 (.new 1 2 3 4) = some ["example.com"] ∧
    answer lastInstantI64 resolved 12 (.new 1 2 3 4) = some [] := by
  refine ⟨(answer_iff lastInstantI64 (by decide) (by decide) _).2 (fun op hm => ?_), by decide +kernel, by decide +kernel⟩
  rcases List.mem_cons.1 hm with rfl | hm
  · exact Or.inr (Or.inr (by decide))
  rcases List.mem_cons.1 hm with rfl | hm
  · trivial
  cases List.mem_singleton.1 hm
  exact Or.inr (Or.inr (by decide))

/-- **With the longest `Duration` there is, the insert panics, and no look-up comes after it.** -/
theorem insert_overflows :
    let ops := [(0, CacheOp.insert (.new 1 2 3 4) "example.com" 18446744073709551615999999999)]
    Live ops (.new 1 2 3 4) "example.com" 1 ∧ ¬ ∃ domains, answer lastInstantI64 ops 1 (.new 1 2 3 4) = some domains := by
  refine ⟨⟨0, 18446744073709551615999999999, by decide, by decide⟩, ?_⟩
  rintro ⟨domains, h⟩
  have hnone : answer lastInstantI64 [(0, CacheOp.insert (.new 1 2 3 4) "example.com" 18446744073709551615999999999)] 1
      (.new 1 2 3 4) = none := by decide
  cases hnone.symm.trans h

end DomainCache

end Easynet
