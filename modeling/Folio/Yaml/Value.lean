import Folio.Yaml.Scalar

/-! # YAML values

What a YAML text says, without regard to how it is written: aliases give way to what they stand for and
scalars to what they mean.  A value keeps the tags of its own (`!name`).  A text has no value if it is not
well formed, if a mapping has the same key twice, or if it is nested or repeats itself beyond the
limits. -/

namespace Folio.Yaml

/-- A value. -/
inductive Value where
  | null
  | bool (b : Bool)
  | int (n : Int)
  | float (f : Float)
  | text (s : String)
  | sequence (items : List Value)
  | mapping (entries : List (Value × Value))
  | tagged (tag : String) (value : Value)

namespace Value

instance : Inhabited Value := ⟨null⟩

/-- Whether two numbers count as the same key; an undefined one is like another. -/
def sameFloat (f g : Float) : Bool := f == g || (f.isNaN && g.isNaN)

mutual

/-- Whether two values are the same; the order of a mapping does not count. -/
def same : Value → Value → Bool
  | null, null => true
  | bool a, bool b => a == b
  | int a, int b => a == b
  | float a, float b => sameFloat a b
  | text a, text b => a == b
  | sequence xs, sequence ys => sameItems xs ys
  | mapping xs, mapping ys => xs.length == ys.length && sameEntries xs ys
  | tagged s a, tagged t b => s == t && same a b
  | _, _ => false

/-- Whether two lists hold the same values. -/
def sameItems : List Value → List Value → Bool
  | [], [] => true
  | x :: xs, y :: ys => same x y && sameItems xs ys
  | _, _ => false

/-- Whether every entry of a list is in another. -/
def sameEntries : List (Value × Value) → List (Value × Value) → Bool
  | [], _ => true
  | (k, v) :: rest, es => es.any (fun e => same k e.1 && same v e.2) && sameEntries rest es

end

/-- The value of a meaning. -/
def ofMeaning : Meaning → Value
  | .null => null
  | .bool b => bool b
  | .int n => int n
  | .float f => float f
  | .text s => text s

/-- Whether no key comes twice. -/
def distinctKeys : List (Value × Value) → Bool
  | [] => true
  | e :: rest => !rest.any (fun r => same e.1 r.1) && distinctKeys rest

end Value

/-! ### Reading -/

/-- How deep collections may be nested. -/
def nestingLimit : Nat := 128

/-- How many aliases may be followed for every mark of a document. -/
def repetitionLimit : Nat := 100

/-- A computation that may follow a limited number of aliases. -/
abbrev Following := StateT Nat Option

/-- The node that a node stands for. -/
def Node.follow : Node → Following Node
  | .reference target => do
    match ← get with
    | 0 => failure
    | left + 1 =>
      set left
      return target
  | .endless => failure
  | n => return n

/-- The name of a tag of one's own, if it is one; it may not be empty. -/
def ownTag? (tag : Option String) : Option (Option String) :=
  match tag.map String.toList with
  | some ['!'] => none
  | some ('!' :: name) => some (some (String.ofList name))
  | _ => some none

/-- A value under a tag, if there is one. -/
def Value.under (tag : Option String) (v : Value) : Value :=
  match tag with
  | some tag => .tagged tag v
  | none => v

/-- The value of a node, with room for `room - 1` levels of collections. -/
def Node.value (room : Nat) (n : Node) : Following Value :=
  match room with
  | 0 => failure
  | room + 1 => do
    match ← n.follow with
    | .scalar tag style text =>
      let own ← ownTag? tag
      let meaning ← Meaning.ofScalar? tag style text
      return (Value.ofMeaning meaning).under own
    | .sequence tag items =>
      let own ← ownTag? tag
      if room = 0 then failure
      let items ← items.mapM fun i => i.value room
      return (Value.sequence items).under own
    | .mapping tag entries =>
      let own ← ownTag? tag
      if room = 0 then failure
      let entries ← entries.mapM fun e => return (← e.1.value room, ← e.2.value room)
      if Value.distinctKeys entries then return (Value.mapping entries).under own else failure
    | .reference _ | .endless => failure

/-- The value of a text. -/
def value? (text : String) : Option Value := do
  let root ← document? text
  (root.value (nestingLimit + 1)).run' (repetitionLimit * root.marks)

end Folio.Yaml
