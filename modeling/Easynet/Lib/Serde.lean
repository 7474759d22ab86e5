import Mathlib.Data.List.Nodup
import Mathlib.Logic.Basic
/-!
# Serde — values in the nodes of a YAML document

A format reads a value from a node and writes it as one.  It need not read everything that it could write, nor write
everything that it has read: what it has read is valid, and a valid value is read back from what is written of it, as `kept`
says.  A struct is a list of fields, each with a name, what stands for it if it is not there, and its own format; keys that
no field has are skipped.

A node is one with its aliases resolved and without tags, and a failed read does not say what has failed.
-/
namespace Serde

/-- A node of a document. -/
inductive Node
  | plain (text : String)
  | quoted (text : String)
  | seq (items : List Node)
  | map (entries : List (String × Node))

/-- **Scalars**: what a plain one stands for where anything is accepted, the empty one among them, and which strings are
written without quotes. -/
structure Scalars where
  isNull : String → Bool
  isString : String → Bool
  unsigned : String → Option Nat
  writesPlain : String → Bool
  null : isNull "null" = true
  string_of_plain : ∀ {text : String}, writesPlain text = true → isString text = true
  not_null : ∀ {text : String}, isString text = true → isNull text = false
  unsigned_lt : ∀ {text : String} {n : Nat}, unsigned text = some n → n < UInt64.size
  unsigned_toString : ∀ {n : Nat}, n < UInt64.size → unsigned (toString n) = some n

structure Format (α : Type) where
  read : Node → Option α
  write : α → Node
  Valid : α → Prop
  kept : α → α
  valid_of_read : ∀ {node : Node} {a : α}, read node = some a → Valid a
  read_write : ∀ {a : α}, Valid a → read (write a) = some (kept a)

/-- The fields of a struct: from the node of each key that is there. -/
structure Fields (α : Type) where
  names : List String
  read : (String → Option Node) → Option α
  write : α → List (String × Node)
  Valid : α → Prop
  kept : α → α
  names_of_write : ∀ a : α, ((write a).map Prod.fst).Sublist names
  valid_of_read : ∀ {find : String → Option Node} {a : α}, read find = some a → Valid a
  read_write : names.Nodup → ∀ {find : String → Option Node} {a : α}, Valid a →
    (∀ name ∈ names, find name = (write a).lookup name) → read find = some (kept a)

variable {α β : Type}

/-! ## Scalars and sequences of them -/

namespace Scalars

variable (y : Scalars)

/-- `serialize_str`. -/
def str (text : String) : Node := if y.writesPlain text then .plain text else .quoted text

/-- The text of a scalar, whatever it stands for. -/
def text : Node → Option String
  | .plain text  => some text
  | .quoted text => some text
  | _            => none

/-- The string that a scalar stands for where anything is accepted. -/
def anyString : Node → Option String
  | .plain text  => if y.isString text then some text else none
  | .quoted text => some text
  | _            => none

def texts : Node → Option (List String)
  | .seq items => items.mapM text
  | _          => none

theorem text_str (s : String) : text (y.str s) = some s := by
  unfold str
  split <;> rfl

theorem texts_str (l : List String) : texts (.seq (l.map y.str)) = some l := by
  show (l.map y.str).mapM text = some l
  induction l with
  | nil => rfl
  | cons s l ih =>
    rw [List.map_cons, List.mapM_cons, text_str, ih]
    rfl

/-- A value with a text: `FromStr` and `Display`. -/
def parsed (parse : String → Option α) (toText : α → String)
    (h : ∀ {s : String} {a : α}, parse s = some a → parse (toText a) = some a) : Format α where
  read node := (text node).bind parse
  write a := y.str (toText a)
  Valid a := parse (toText a) = some a
  kept := id
  valid_of_read hread := by
    obtain ⟨s, -, hparse⟩ := Option.bind_eq_some_iff.1 hread
    exact h hparse
  read_write hvalid := by rw [text_str, Option.bind_some, hvalid]; rfl

def string : Format String := y.parsed some id (fun _ => rfl)

def unsigned64 : Format Nat where
  read
    | .plain text => y.unsigned text
    | _           => none
  write n := .plain (toString n)
  Valid n := n < UInt64.size
  kept := id
  valid_of_read {node} {n} hread := by
    cases node with
    | plain text => exact y.unsigned_lt hread
    | quoted text => cases hread
    | seq items => cases hread
    | map entries => cases hread
  read_write hvalid := y.unsigned_toString hvalid

/-- A node that stands for nothing. -/
def isNone : Node → Bool
  | .plain text => y.isNull text
  | _           => false

theorem isNone_str (s : String) : y.isNone (y.str s) = false := by
  unfold str
  split
  · rename_i hplain
    exact y.not_null (y.string_of_plain hplain)
  · rfl

/-- `Option` of something that is not written as nothing. -/
def option (f : Format α) (h : ∀ a, y.isNone (f.write a) = false) : Format (Option α) where
  read node := if y.isNone node then some none else (f.read node).map some
  write
    | none   => .plain "null"
    | some a => f.write a
  Valid o := ∀ a ∈ o, f.Valid a
  kept o := o.map f.kept
  valid_of_read {node} {o} hread := by
    split at hread
    · cases hread
      exact fun a ha => absurd ha (Option.not_mem_none a)
    · obtain ⟨a, hfound, rfl⟩ := Option.map_eq_some_iff.1 hread
      rintro a' ⟨⟩
      exact f.valid_of_read hfound
  read_write {o} hvalid := by
    cases o with
    | none =>
      have hnone : y.isNone (.plain "null") = true := y.null
      simp only [hnone, if_true, Option.map_none]
    | some a => simp only [h a, Bool.false_eq_true, if_false, f.read_write (hvalid a rfl), Option.map_some]

end Scalars

/-! ## Fields -/

namespace Fields

/-- A field that has to be there. -/
def required (name : String) (f : Format α) : Fields α where
  names := [name]
  read find := (find name).bind f.read
  write a := [(name, f.write a)]
  Valid := f.Valid
  kept := f.kept
  names_of_write _ := List.Sublist.refl [name]
  valid_of_read hread := by
    obtain ⟨node, -, hread⟩ := Option.bind_eq_some_iff.1 hread
    exact f.valid_of_read hread
  read_write _ _ a hvalid hfind := by
    rw [hfind name List.mem_cons_self, List.lookup_cons_self, Option.bind_some, f.read_write hvalid]

/-- What a field is that may be left out. -/
def readDefault (name : String) (f : Format α) (default : α) (find : String → Option Node) : Option α :=
  match find name with
  | some node => f.read node
  | none      => some default

theorem valid_of_readDefault {name : String} {f : Format α} {default : α} (h : f.Valid default)
    {find : String → Option Node} {a : α} (hread : readDefault name f default find = some a) : f.Valid a := by
  unfold readDefault at hread
  split at hread
  · exact f.valid_of_read hread
  · cases hread
    exact h

/-- `#[serde(default)]`. -/
def defaulted (name : String) (f : Format α) (default : α) (h : f.Valid default) : Fields α where
  names := [name]
  read := readDefault name f default
  write a := [(name, f.write a)]
  Valid := f.Valid
  kept := f.kept
  names_of_write _ := List.Sublist.refl [name]
  valid_of_read := valid_of_readDefault h
  read_write _ _ a hvalid hfind := by
    rw [readDefault, hfind name List.mem_cons_self, List.lookup_cons_self]
    exact f.read_write hvalid

/-- `#[serde(default, skip_serializing)]`: nothing is kept of it. -/
def skipped (name : String) (f : Format α) (default : α) : Fields α where
  names := [name]
  read := readDefault name f default
  write _ := []
  Valid _ := True
  kept _ := default
  names_of_write _ := List.nil_sublist [name]
  valid_of_read _ := trivial
  read_write _ _ a _ hfind := by
    rw [readDefault, hfind name List.mem_cons_self]
    rfl

/-- One list of fields after another. -/
def and (f : Fields α) (g : Fields β) : Fields (α × β) where
  names := f.names ++ g.names
  read find := (f.read find).bind (fun a => (g.read find).map (fun b => (a, b)))
  write p := f.write p.1 ++ g.write p.2
  Valid p := f.Valid p.1 ∧ g.Valid p.2
  kept p := (f.kept p.1, g.kept p.2)
  names_of_write p := by
    rw [List.map_append]
    exact (f.names_of_write p.1).append (g.names_of_write p.2)
  valid_of_read hread := by
    obtain ⟨a, ha, hread⟩ := Option.bind_eq_some_iff.1 hread
    obtain ⟨b, hb, rfl⟩ := Option.map_eq_some_iff.1 hread
    exact ⟨f.valid_of_read ha, g.valid_of_read hb⟩
  read_write hnodup find p hvalid hfind := by
    obtain ⟨hf, hg, hdisjoint⟩ := List.nodup_append.1 hnodup
    -- the keys of one list are not among what the other writes
    have hnone {name : String} {entries : List (String × Node)} (h : name ∉ entries.map Prod.fst) :
        entries.lookup name = none := by
      refine List.lookup_eq_none_iff.2 (fun q hq => bne_iff_ne.2 (fun heq => h ?_))
      exact heq ▸ List.mem_map_of_mem hq
    have hleft : f.read find = some (f.kept p.1) := f.read_write hf hvalid.1 (fun name hm => by
      rw [hfind name (List.mem_append_left _ hm), List.lookup_append,
        hnone (fun hw => hdisjoint name hm name ((g.names_of_write p.2).subset hw) rfl), Option.or_none])
    have hright : g.read find = some (g.kept p.2) := g.read_write hg hvalid.2 (fun name hm => by
      rw [hfind name (List.mem_append_right _ hm), List.lookup_append,
        hnone (fun hw => hdisjoint name ((f.names_of_write p.1).subset hw) name hm rfl), Option.none_or])
    rw [hleft, Option.bind_some, hright, Option.map_some]

/-- The fields as those of a structure. -/
def iso (f : Fields α) (pack : α → β) (unpack : β → α) (h : ∀ a, unpack (pack a) = a) : Fields β where
  names := f.names
  read find := (f.read find).map pack
  write b := f.write (unpack b)
  Valid b := f.Valid (unpack b)
  kept b := pack (f.kept (unpack b))
  names_of_write b := f.names_of_write (unpack b)
  valid_of_read hread := by
    obtain ⟨a, hfound, rfl⟩ := Option.map_eq_some_iff.1 hread
    rw [h a]
    exact f.valid_of_read hfound
  read_write hnodup find b hvalid hfind := by rw [f.read_write hnodup hvalid hfind, Option.map_some]

/-- The entries of a mapping; nothing at all is an empty one. -/
def entries : Node → Option (List (String × Node))
  | .map entries => some entries
  | .plain text  => if text.isEmpty then some [] else none
  | _            => none

/-- `deserialize_struct`: no field may be there twice. -/
def struct (f : Fields α) (h : f.names.Nodup) : Format α where
  read node := (entries node).bind (fun entries =>
    if f.names.all (fun name => decide ((entries.map Prod.fst).count name ≤ 1)) then
      f.read (fun name => entries.lookup name)
    else none)
  write a := .map (f.write a)
  Valid := f.Valid
  kept := f.kept
  valid_of_read hread := by
    obtain ⟨entries, -, hread⟩ := Option.bind_eq_some_iff.1 hread
    split at hread
    · exact f.valid_of_read hread
    · cases hread
  read_write {a} hvalid := by
    have honce : f.names.all (fun name => decide (((f.write a).map Prod.fst).count name ≤ 1)) = true :=
      List.all_eq_true.2 (fun name _ =>
        decide_eq_true (List.nodup_iff_count_le_one.1 (List.Nodup.sublist (f.names_of_write a) h) name))
    show (if _ then _ else none) = _
    rw [if_pos honce, f.read_write h hvalid (fun _ _ => rfl)]

end Fields

end Serde
