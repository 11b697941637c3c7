import SqlRender.Proofs.Bundled
import SqlRender.Proofs.Compilation

/-!
# Statements as templates with texts in their slots

The templates of the bundled backends for reading and changing rows name each slot once, so what is
put into the slots stands in the SQL in the order of the template.

* `Statement.assemble_eq`: fragments in the slots of a template.
* `Backend.template_eq`: the templates, slot by slot.
* `Backend.template_regular`: what is checked of the templates of the bundled backends.
* `Backend.result_compile`: a statement of a bundled backend.
-/

namespace SqlRender

namespace Template

/-- Texts put into slots behind `out`, each with the text of the template that follows it. -/
def lay : List Char → List (List Char × List Char) → List String → List Char
  | out, slot :: slots, text :: texts => lay (glue (glue out text.toList) slot.2) slots texts
  | out, _, _ => out

theorem assembleValues_eq {fragment : List Char → Value} {slots : List (List Char × List Char)}
    {texts : List String}
    (h : List.Forall₂ (fun slot text => fragment slot.1 = .text text) slots texts)
    (out : List Char) : assembleValues fragment out slots = .ok (lay out slots texts) := by
  induction h generalizing out with
  | nil => rfl
  | cons hslot _ ih =>
    rw [assembleValues, hslot]
    exact ih _

/-- Fragments in the slots of a template. -/
def fragment (t : Template) (parts : List Fragment) : Fragment :=
  ⟨String.ofList (Text.strip (lay t.head t.slots (parts.map Fragment.sql))),
    parts.flatMap Fragment.params⟩

end Template

/-- The value that a text in a slot stands for. -/
def Template.slotValue (entry : (List Char × List Char) × String) : String × Value :=
  (String.ofList entry.1.1, .text entry.2)

/-- A template that names each slot once is filled slot by slot. -/
theorem Statement.assemble_eq {t : Template} (hnodup : t.names.Nodup) {parts : List Fragment}
    (hlength : parts.length = t.names.length) :
    assemble t (t.names.zip (parts.map Fragment.toFilling)) = .ok (t.fragment parts) := by
  have hvalues : (t.names.zip (parts.map Fragment.toFilling)).map
      (fun entry => (entry.1, entry.2.item)) =
      (t.slots.zip (parts.map Fragment.sql)).map Template.slotValue := by
    rw [Template.names, List.zip_map, List.zip_map_right, List.map_map, List.map_map]
    rfl
  have hparams : (t.names.zip (parts.map Fragment.toFilling)).flatMap
      (fun entry => entry.2.params) = parts.flatMap Fragment.params := by
    rw [← List.flatMap_map (f := Prod.snd) (g := Filling.params), List.map_snd_zip,
      List.flatMap_map]
    · rfl
    · simp [hlength]
  have hlength' : t.slots.length = (parts.map Fragment.sql).length := by
    rw [List.length_map, hlength, Template.names, List.length_map]
  have hkeys : ((t.slots.zip (parts.map Fragment.sql)).map Template.slotValue).map Prod.fst =
      t.names := by
    have hfst := congrArg (List.map fun slot => String.ofList slot.1)
      (List.map_fst_zip (Nat.le_of_eq hlength'))
    rw [List.map_map] at hfst ⊢
    exact hfst
  have hslots : List.Forall₂ (fun slot text => (Assoc.get? (String.ofList slot.1)
      ((t.slots.zip (parts.map Fragment.sql)).map Template.slotValue)).getD .null = .text text)
      t.slots (parts.map Fragment.sql) := by
    rw [List.forall₂_iff_zip]
    refine ⟨hlength', fun {slot text} hmem => ?_⟩
    have hentry := List.mem_map_of_mem (f := Template.slotValue) hmem
    rw [(Assoc.exact _).get?_of_mem (hkeys ▸ hnodup) hentry]
    rfl
  rw [assemble, hvalues, Template.renderValues, Template.assembleValues_eq hslots, hparams]
  rfl

/-! ## Bundled backends -/

/-- Statements that read or change rows. -/
def StatementKind.isData : StatementKind → Bool
  | .select | .insert | .update | .delete => true
  | _ => false

/-- A slot that templates for statements of a kind may have: values belong to an insert, and parts
of a schema to no statement that reads or changes rows. -/
def Slot.suits (k : StatementKind) : Slot → Bool
  | .values => k = .insert
  | .columns | .keys | .options => false
  | _ => true

/-- The text has neither a question mark nor the mark of any backend. -/
def Text.isPlain (cs : List Char) : Bool := cs.all fun c => c != '?' && c != '"' && c != '\x60'

namespace Template

/-- The template begins with text, and that with no blank. -/
def beginsSolid (t : Template) : Bool := t.head.head?.any fun c => !Text.isBlank c

/-- What the templates for reading and changing rows have in common: they name each slot once, only
slots that suit the kind of statement, and one for a filter unless rows are inserted; their own text
is plain and begins with no blank. -/
structure Regular (k : StatementKind) (t : Template) : Prop where
  nodup : t.names.Nodup
  suits : ∀ name ∈ t.names, (Slot.ofName name).suits k = true
  filter : k ≠ .insert → "where" ∈ t.names
  head : Text.isPlain t.head = true
  slots : ∀ slot ∈ t.slots, Text.isPlain slot.2 = true
  begins : t.beginsSolid = true

instance (k : StatementKind) (t : Template) : Decidable (t.Regular k) :=
  decidable_of_iff (t.names.Nodup ∧ (∀ name ∈ t.names, (Slot.ofName name).suits k = true) ∧
      (k ≠ .insert → "where" ∈ t.names) ∧ Text.isPlain t.head = true ∧
      (∀ slot ∈ t.slots, Text.isPlain slot.2 = true) ∧ t.beginsSolid = true)
    ⟨fun ⟨hnodup, hsuits, hfilter, hhead, hslots, hbegins⟩ =>
        ⟨hnodup, hsuits, hfilter, hhead, hslots, hbegins⟩,
      fun h => ⟨h.nodup, h.suits, h.filter, h.head, h.slots, h.begins⟩⟩

/-- A template from its first text and its slots, each with the text behind it. -/
def ofPlan (plan : String × List (String × String)) : Template :=
  ⟨plan.1.toList, plan.2.map fun slot => (slot.1.toList, slot.2.toList)⟩

theorem names_ofPlan (plan : String × List (String × String)) :
    (ofPlan plan).names = plan.2.map Prod.fst := by
  simp [names, ofPlan]

theorem ofText_ofList (cs : List Char) : ofText (String.ofList cs) = parse cs := by
  rw [ofText, String.toList_ofList]

theorem ofText_append (cs ds : List Char) :
    ofText (String.ofList cs ++ String.ofList ds) = parse (cs ++ ds) := by
  rw [ofText, String.toList_append, String.toList_ofList, String.toList_ofList]

end Template

namespace Backend

/-- The slots of a select in the backends that lock no rows. -/
def selectSlots : List (String × String) :=
  [("distinct", " "), ("fields", " FROM "), ("table", " "), ("joins", " "), ("where", " "),
   ("group_by", " "), ("having", " "), ("compounds", " "), ("order_by", " "), ("limit", "")]

/-- The templates for reading and changing rows, slot by slot. -/
def plan : Backend → StatementKind → String × List (String × String)
  | .ansi, .select | .sqlite, .select => ("SELECT ", selectSlots)
  | .mysql, .select | .postgresql, .select =>
    ("SELECT ", selectSlots.dropLast ++ [("limit", " "), ("lock", "")])
  | .postgresql, .insert =>
    ("INSERT INTO ",
      [("table", " "), ("fields", " VALUES "), ("values", " "), ("returning", "")])
  | _, .insert => ("INSERT INTO ", [("table", " "), ("fields", " VALUES "), ("values", "")])
  | .ansi, .update | .sqlite, .update =>
    ("UPDATE ", [("table", " SET "), ("fields", " "), ("where", "")])
  | .mysql, .update =>
    ("UPDATE ", [("table", " "), ("joins", " SET "), ("fields", " "), ("where", " "),
      ("order_by", " "), ("limit", "")])
  | .postgresql, .update =>
    ("UPDATE ", [("only", " "), ("table", " SET "), ("fields", " "), ("where", " "),
      ("returning", "")])
  | .ansi, .delete | .sqlite, .delete => ("DELETE FROM ", [("table", " "), ("where", "")])
  | .mysql, .delete =>
    ("DELETE FROM ", [("table", " "), ("joins", " "), ("where", " "), ("order_by", " "),
      ("limit", "")])
  | .postgresql, .delete =>
    ("DELETE FROM ", [("only", " "), ("table", " "), ("joins", " "), ("where", " "),
      ("returning", "")])
  | _, _ => ("", [])

/-- The template for a kind of statement, without text and slots if there is none. -/
def template (b : Backend) (k : StatementKind) : Template :=
  (b.templateText? k).elim ⟨[], []⟩ .ofText

variable {b : Backend} {k : StatementKind}

theorem templateText?_isSome (hk : k.isData = true) : (b.templateText? k).isSome = true := by
  cases k with
  | select | insert | update | delete => cases b <;> decide
  | _ => cases hk

theorem template_of_text {text : String} {cs : List Char} (htext : b.templateText? k = some text)
    (hcs : Template.ofText text = .parse cs) : b.template k = .parse cs := by
  rw [template, htext]
  exact hcs

/-- A template is read off its text once; what else is asked of it is asked of its plan. -/
theorem template_eq (b : Backend) (hk : k.isData = true) : b.template k = .ofPlan (b.plan k) := by
  cases k with
  | select =>
    cases b <;> exact (template_of_text rfl (Template.ofText_append _ _)).trans (by decide)
  | insert | update | delete =>
    cases b <;> exact (template_of_text rfl (Template.ofText_ofList _)).trans (by decide)
  | _ => cases hk

theorem template_regular (b : Backend) (hk : k.isData = true) : (b.template k).Regular k := by
  rw [b.template_eq hk]
  cases k with
  | select | insert | update | delete => cases b <;> decide
  | _ => cases hk

/-- Slots never touch. -/
theorem slots_apart (b : Backend) (hk : k.isData = true) :
    ∀ slot ∈ (b.template k).slots.dropLast, slot.2 ≠ [] := by
  rw [b.template_eq hk]
  cases k with
  | select | insert | update | delete => cases b <;> decide
  | _ => cases hk

/-- No slot is filled from an index or a schema. -/
theorem slots_of_rows (b : Backend) (hk : k.isData = true) :
    ∀ name ∈ (b.template k).names, Slot.ofName name ∉ [.index, .columns, .keys, .options] := by
  rw [b.template_eq hk, Template.names_ofPlan]
  cases k with
  | select | insert | update | delete => cases b <;> decide
  | _ => cases hk

/-- The result for a statement of a bundled backend: its template with what fills the slots. -/
theorem result_compile (types : TypeCatalogue) {s : Statement} (hs : s.kind = .kind k)
    (hk : k.isData = true) (operands : Traced Fragment) :
    (s.compile (b.dialect types) operands).result = (do
      let fillings ← (b.template k).names.mapM (s.slotFilling (b.dialect types) operands)
      Statement.assemble (b.template k) ((b.template k).names.zip fillings)) := by
  obtain ⟨text, htext⟩ := Option.isSome_iff_exists.mp (templateText?_isSome (b := b) hk)
  rw [Statement.result_compile, hs, templateOf_eq, template, htext]
  rfl

end Backend

end SqlRender
