import ExecUnit.Generation
import ExecUnit.Layout.Gen4
import ExecUnit.Layout.Gen8
import ExecUnit.Layout.Message

/-!
Which layout each generation uses, and the tables that list every field.
-/

namespace ExecUnit

inductive LayoutKind where
  | gen4 | gen8
  deriving DecidableEq, Repr

namespace LayoutKind

def layout : LayoutKind → Layout
  | .gen4 => .gen4
  | .gen8 => .gen8

def covers (gen : Generation) : LayoutKind → Bool
  | .gen4 => gen.number ≤ 7
  | .gen8 => 8 ≤ gen.number

end LayoutKind

/-- Where a flow control instruction keeps its jump targets. The second one is
a plain count on the first generations. -/
structure JumpFields where
  jip : Field
  uip : Field
  signedUip : Bool

namespace Generation

def layoutKind (gen : Generation) : LayoutKind :=
  if 8 ≤ gen.number then .gen8 else .gen4

def layout (gen : Generation) : Layout :=
  gen.layoutKind.layout

theorem covers_iff (kind : LayoutKind) (gen : Generation) :
    kind.covers gen = true ↔ gen.layoutKind = kind := by
  cases kind <;> cases gen <;> decide

def messageFields : Generation → MessageFields
  | .gen4 => Gen4Message.messageFields
  | .gen5 => Gen5Message.messageFields
  | .gen6 =>
      { Gen5Message.messageFields with
        sfid := headerSfid
        mathFunction := none }
  | .gen7 => Gen7Message.messageFields
  | .gen8 | .gen9 => Gen8Message.messageFields

def jumpFields : Generation → JumpFields
  | .gen4 | .gen5 => ⟨Layout.Gen4.jump4, Layout.Gen4.pop4, false⟩
  | .gen6 => ⟨Layout.Gen4.jump6, Layout.Gen4.uip7, true⟩
  | .gen7 => ⟨Layout.Gen4.jip7, Layout.Gen4.uip7, true⟩
  | .gen8 | .gen9 => ⟨Layout.Gen8.jip, Layout.Gen8.uip, true⟩

end Generation

/-- The tables of fields, one for each layout and each form of the message
descriptor. -/
inductive FieldTable where
  | gen4 | gen8 | gen4Message | gen5Message | gen7Message | gen8Message
  deriving DecidableEq, Repr

namespace FieldTable

def name : FieldTable → String
  | .gen4 => "Gen4"
  | .gen8 => "Gen8"
  | .gen4Message => "Gen4Message"
  | .gen5Message => "Gen5Message"
  | .gen7Message => "Gen7Message"
  | .gen8Message => "Gen8Message"

def all : List FieldTable :=
  [.gen4, .gen8, .gen4Message, .gen5Message, .gen7Message, .gen8Message]

def ofName? (name : String) : Option FieldTable :=
  all.find? (·.name == name)

def fields : FieldTable → List Field
  | .gen4 => Layout.Gen4.fields
  | .gen8 => Layout.Gen8.fields
  | .gen4Message => Gen4Message.fields
  | .gen5Message => Gen5Message.fields
  | .gen7Message => Gen7Message.fields
  | .gen8Message => Gen8Message.fields

def field? (table : FieldTable) (name : String) : Option Field :=
  table.fields.find? (·.name == name)

end FieldTable

end ExecUnit
