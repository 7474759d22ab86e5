import Mathlib.Algebra.Group.Nat.Defs
import Mathlib.Data.List.Basic
/-!
# Protobuf — the wire format, as a list of fields

A message on the wire is a sequence of fields, each a key (the tag and the wire type in one base-128 varint) and a
value.  `readFields` takes a byte string apart and `writeFields` puts one together; `readFields_writeFields` is the
round trip.  Numbers are `Nat` here: the machine widths are the reader's business, who narrows them where the field has
a type.  Groups, which proto3 does not have, are refused.
-/
namespace Protobuf

abbrev Bytes := List UInt8

/-! ## Varints -/

/-- At most `n + 1` groups of seven bits, lowest first, the top bit set on all but the last. -/
def varintUpTo : Nat → Nat → Bytes
  | 0, v     => [UInt8.ofNat v]
  | n + 1, v => if v < 128 then [UInt8.ofNat v] else UInt8.ofNat (v % 128 + 128) :: varintUpTo n (v / 128)

def varint (v : Nat) : Bytes := varintUpTo v v

def readVarint : Bytes → Option (Nat × Bytes)
  | []     => none
  | b :: r =>
    if b.toNat < 128 then some (b.toNat, r)
    else (readVarint r).map (fun q => (b.toNat - 128 + 128 * q.1, q.2))

theorem readVarint_varintUpTo : ∀ (n v : Nat) (r : Bytes), v < 128 ^ (n + 1) →
    readVarint (varintUpTo n v ++ r) = some (v, r)
  | 0, v, r, hv => by
    have hv : v < 128 := by simpa using hv
    have hb : (UInt8.ofNat v).toNat = v := by rw [UInt8.toNat_ofNat']; omega
    simp [varintUpTo, readVarint, hb, hv]
  | n + 1, v, r, hv => by
    by_cases h : v < 128
    · have hb : (UInt8.ofNat v).toNat = v := by rw [UInt8.toNat_ofNat']; omega
      simp [varintUpTo, readVarint, hb, h]
    · have hb : (UInt8.ofNat (v % 128 + 128)).toNat = v % 128 + 128 := by rw [UInt8.toNat_ofNat']; omega
      have hq : v / 128 < 128 ^ (n + 1) := by
        rw [Nat.div_lt_iff_lt_mul (by decide), ← Nat.pow_succ]; exact hv
      rw [varintUpTo, if_neg h, List.cons_append, readVarint, hb, if_neg (by omega),
        readVarint_varintUpTo n (v / 128) r hq]
      simp only [Option.map_some, Option.some.injEq, Prod.mk.injEq, and_true]
      omega

/-- **The reader undoes the writer**, whatever follows. -/
theorem readVarint_varint (v : Nat) (r : Bytes) : readVarint (varint v ++ r) = some (v, r) := by
  refine readVarint_varintUpTo v v r ?_
  exact Nat.lt_of_lt_of_le (Nat.lt_pow_self (by decide)) (Nat.pow_le_pow_right (by decide) (Nat.le_succ v))

theorem varint_ne_nil (v : Nat) : varint v ≠ [] := by
  unfold varint
  cases v with
  | zero => simp [varintUpTo]
  | succ v => rw [varintUpTo]; split <;> simp

/-! ## Fields -/

inductive Value
  | varint (n : Nat)
  | i64 (b : Bytes)
  | len (b : Bytes)
  | i32 (b : Bytes)
  deriving DecidableEq, Repr

structure Field where
  tag : Nat
  value : Value
  deriving DecidableEq, Repr

def Value.wireType : Value → Nat
  | .varint _ => 0
  | .i64 _    => 1
  | .len _    => 2
  | .i32 _    => 5

def Value.write : Value → Bytes
  | .varint n => Protobuf.varint n
  | .i64 b    => b
  | .len b    => Protobuf.varint b.length ++ b
  | .i32 b    => b

def Field.write (f : Field) : Bytes := varint (8 * f.tag + f.value.wireType) ++ f.value.write

def writeFields (fs : List Field) : Bytes := fs.flatMap Field.write

def takeBytes (n : Nat) (b : Bytes) : Option (Bytes × Bytes) :=
  if n ≤ b.length then some (b.take n, b.drop n) else none

def readValue (wireType : Nat) (b : Bytes) : Option (Value × Bytes) :=
  match wireType with
  | 0 => (readVarint b).map (fun q => (.varint q.1, q.2))
  | 1 => (takeBytes 8 b).map (fun q => (.i64 q.1, q.2))
  | 2 => (readVarint b).bind (fun q => (takeBytes q.1 q.2).map (fun p => (.len p.1, p.2)))
  | 5 => (takeBytes 4 b).map (fun q => (.i32 q.1, q.2))
  | _ => none

def readField (b : Bytes) : Option (Field × Bytes) :=
  (readVarint b).bind (fun k =>
    -- the tag 0 is reserved: no message uses it, and every reader refuses it
    if k.1 / 8 = 0 then none else (readValue (k.1 % 8) k.2).map (fun v => (⟨k.1 / 8, v.1⟩, v.2)))

def readFieldsUpTo : Nat → Bytes → Option (List Field)
  | _, []         => some []
  | 0, _ :: _     => none
  | n + 1, b :: r => (readField (b :: r)).bind (fun q => (readFieldsUpTo n q.2).map (fun fs => q.1 :: fs))

def readFields (b : Bytes) : Option (List Field) := readFieldsUpTo b.length b

/-- A field the format can carry: a positive tag, and fixed-width values of their width. -/
def Field.wf (f : Field) : Bool :=
  decide (0 < f.tag) && match f.value with
    | .i64 b => b.length == 8
    | .i32 b => b.length == 4
    | _      => true

theorem takeBytes_append (b r : Bytes) : takeBytes b.length (b ++ r) = some (b, r) := by
  simp [takeBytes]

theorem readValue_write (v : Value) (r : Bytes) (h8 : ∀ b, v = .i64 b → b.length = 8)
    (h4 : ∀ b, v = .i32 b → b.length = 4) : readValue v.wireType (v.write ++ r) = some (v, r) := by
  cases v with
  | varint n => simp [Value.wireType, Value.write, readValue, readVarint_varint]
  | i64 b =>
    have := takeBytes_append b r
    rw [h8 b rfl] at this
    simp [Value.wireType, Value.write, readValue, this]
  | len b =>
    simp only [Value.wireType, Value.write, readValue, List.append_assoc, readVarint_varint, Option.bind_some,
      takeBytes_append, Option.map_some]
  | i32 b =>
    have := takeBytes_append b r
    rw [h4 b rfl] at this
    simp [Value.wireType, Value.write, readValue, this]

theorem readField_write (f : Field) (r : Bytes) (hf : f.wf = true) : readField (f.write ++ r) = some (f, r) := by
  simp only [Field.wf, Bool.and_eq_true, decide_eq_true_eq] at hf
  obtain ⟨ht, hv⟩ := hf
  have hw : f.value.wireType < 8 := by cases f.value <;> simp [Value.wireType]
  have hread := readValue_write f.value r (fun b hb => by rw [hb] at hv; simpa using hv)
    (fun b hb => by rw [hb] at hv; simpa using hv)
  rw [Field.write, List.append_assoc, readField, readVarint_varint]
  simp only [Option.bind_some]
  rw [show (8 * f.tag + f.value.wireType) / 8 = f.tag by omega,
    show (8 * f.tag + f.value.wireType) % 8 = f.value.wireType by omega, if_neg (by omega), hread]
  rfl

theorem Field.write_ne_nil (f : Field) : f.write ≠ [] := by
  simp [Field.write, varint_ne_nil]

theorem readFieldsUpTo_writeFields : ∀ (fs : List Field) (n : Nat), (∀ f ∈ fs, f.wf = true) →
    (writeFields fs).length ≤ n → readFieldsUpTo n (writeFields fs) = some fs
  | [], n, _, _ => by cases n <;> rfl
  | f :: fs, n, hf, hn => by
    have hne := Field.write_ne_nil f
    have hw : writeFields (f :: fs) = f.write ++ writeFields fs := by simp [writeFields]
    have hpos : 0 < f.write.length := List.length_pos_iff.2 hne
    rw [hw, List.length_append] at hn
    obtain ⟨m, rfl⟩ : ∃ m, n = m + 1 := ⟨n - 1, by omega⟩
    have hread := readField_write f (writeFields fs) (hf f List.mem_cons_self)
    obtain ⟨b, r, hbr⟩ : ∃ b r, f.write ++ writeFields fs = b :: r :=
      List.exists_cons_of_ne_nil (by simp [hne])
    rw [hw, hbr, readFieldsUpTo, ← hbr, hread]
    simp only [Option.bind_some]
    rw [readFieldsUpTo_writeFields fs m (fun g hg => hf g (List.mem_cons_of_mem _ hg)) (by omega)]
    rfl

theorem readFields_writeFields (fs : List Field) (hf : ∀ f ∈ fs, f.wf = true) :
    readFields (writeFields fs) = some fs :=
  readFieldsUpTo_writeFields fs _ hf (Nat.le_refl _)

/-! ## Text -/

def utf8 (s : String) : Bytes := s.toByteArray.data.toList

def readUtf8 (b : Bytes) : Option String := String.fromUTF8? ⟨b.toArray⟩

theorem readUtf8_utf8 (s : String) : readUtf8 (utf8 s) = some s := by
  have hb : (⟨s.toByteArray.data.toList.toArray⟩ : ByteArray) = s.toByteArray := by simp
  simp only [readUtf8, utf8, hb, String.fromUTF8?, s.isValidUTF8, dite_true]
  rfl

end Protobuf
