import DocumentIngest.Proofs.Fallible
import DocumentIngest.Template.Tree
import Mathlib.Data.List.Forall2

/-!
# The shape of what a template resolves to

A template document resolves to a value of its own shape.  Constants stay as they are, an
array keeps its length, and an object keeps its keys but for those whose text is missing.
Resolving fails just if one of the texts does, at whatever depth it stands.
-/

namespace DocumentIngest

open Fallible

namespace TemplateTree

/-- Whether a text stands at a path in a template that itself stands at another one. -/
inductive StandsIn (path text : String) : String → Json → Prop where
  | here : StandsIn path text path (.string text)
  | field {above name : String} {child : Json} {fields : Json.Fields} :
      (name, child) ∈ fields → StandsIn path text (childPath above name) child →
        StandsIn path text above (.object fields)
  | item {above : String} {item : Json} {items : List Json} :
      item ∈ items → StandsIn path text above item → StandsIn path text above (.array items)

/-- A value that is neither a text nor made of other values. -/
inductive IsConstant : Json → Prop where
  | null : IsConstant .null
  | bool (flag : Bool) : IsConstant (.bool flag)
  | number (number : Number) : IsConstant (.number number)

section Shapes

variable (provided : List Handler) (context : RowContext) (optionally : List String)

/-- What a text comes to at a path of a template. -/
def textAt (path text : String) : Except TemplateError Resolved :=
  Token.ofTemplate text >>= fun token =>
    token.resolve provided context (optionally.contains path)

/-- Whether a part of a template is a text that is missing. -/
def isAbsent (path : String) : Json → Bool
  | .string text =>
      match textAt provided context optionally path text with
      | .ok resolved => resolved.isMissing
      | .error _ => false
  | _ => false

/-- The fields of an object but for those whose texts are missing. -/
def present (path : String) (fields : Json.Fields) : Json.Fields :=
  fields.filter fun field => !isAbsent provided context optionally (childPath path field.1) field.2

/-- Whether a value has the shape of a template, with what its texts come to in their places. -/
inductive Mirrors : String → Json → Json → Prop where
  | text {path text : String} {resolved : Resolved} {found : Json} :
      textAt provided context optionally path text = .ok resolved →
        resolved.toJson? = some found → Mirrors path (.string text) found
  | constant {path : String} {constant : Json} :
      IsConstant constant → Mirrors path constant constant
  | array {path : String} {items values : List Json} :
      values.length = items.length →
        (∀ (index : Nat) (item found : Json), items[index]? = some item →
          values[index]? = some found →
            isAbsent provided context optionally path item = true → found = .null) →
        (∀ (index : Nat) (item found : Json), items[index]? = some item →
          values[index]? = some found →
            isAbsent provided context optionally path item = false → Mirrors path item found) →
        Mirrors path (.array items) (.array values)
  | object {path : String} {fields values : Json.Fields} :
      Keyed.keys values = Keyed.keys (present provided context optionally path fields) →
        (∀ (index : Nat) (field found : String × Json),
          (present provided context optionally path fields)[index]? = some field →
            values[index]? = some found → Mirrors (childPath path field.1) field.2 found.2) →
        Mirrors path (.object fields) (.object values)

/-- Whether a failure is that of a text somewhere in a template. -/
def FailsWithin (path : String) (template : Json) (fault : TemplateError) : Prop :=
  ∃ below text, StandsIn below text path template ∧
    textAt provided context optionally below text = .error fault

/-- What can become of a template: one of its texts fails, it is itself a text that is
missing, or there is a value of its shape. -/
def Comes (path : String) (template : Json) : Except TemplateError (Option Json) → Prop
  | .error fault => FailsWithin provided context optionally path template fault
  | .ok none => isAbsent provided context optionally path template = true
  | .ok (some found) => isAbsent provided context optionally path template = false ∧
      Mirrors provided context optionally path template found

/-- What can become of the fields of an object. -/
def FieldsCome (path : String) (fields : Json.Fields) : Except TemplateError Json.Fields → Prop
  | .error fault => FailsWithin provided context optionally path (.object fields) fault
  | .ok values =>
      List.Forall₂ (fun field found => found.1 = field.1 ∧
        Mirrors provided context optionally (childPath path field.1) field.2 found.2)
        (present provided context optionally path fields) values

/-- What can become of the items of an array. -/
def ItemsCome (path : String) (items : List Json) : Except TemplateError (List Json) → Prop
  | .error fault => FailsWithin provided context optionally path (.array items) fault
  | .ok values =>
      List.Forall₂ (fun item (found : Json) =>
        if isAbsent provided context optionally path item then found = .null
        else Mirrors provided context optionally path item found) items values

end Shapes

variable {provided : List Handler} {context : RowContext} {optionally : List String}
  {path : String} {fault : TemplateError}

theorem present_cons_of_absent {name : String} {child : Json} (rest : Json.Fields)
    (absent : isAbsent provided context optionally (childPath path name) child = true) :
    present provided context optionally path ((name, child) :: rest) =
      present provided context optionally path rest :=
  List.filter_cons_of_neg (by simp [absent])

theorem present_cons_of_not_absent {name : String} {child : Json} (rest : Json.Fields)
    (there : isAbsent provided context optionally (childPath path name) child = false) :
    present provided context optionally path ((name, child) :: rest) =
      (name, child) :: present provided context optionally path rest :=
  List.filter_cons_of_pos (by simp [there])

theorem FailsWithin.field {name : String} {child : Json} {fields : Json.Fields}
    (member : (name, child) ∈ fields)
    (fails : FailsWithin provided context optionally (childPath path name) child fault) :
    FailsWithin provided context optionally path (.object fields) fault := by
  obtain ⟨below, text, stands, failed⟩ := fails
  exact ⟨below, text, .field member stands, failed⟩

theorem FailsWithin.item {item : Json} {items : List Json} (member : item ∈ items)
    (fails : FailsWithin provided context optionally path item fault) :
    FailsWithin provided context optionally path (.array items) fault := by
  obtain ⟨below, text, stands, failed⟩ := fails
  exact ⟨below, text, .item member stands, failed⟩

theorem FailsWithin.laterField {field : String × Json} {rest : Json.Fields}
    (fails : FailsWithin provided context optionally path (.object rest) fault) :
    FailsWithin provided context optionally path (.object (field :: rest)) fault := by
  obtain ⟨below, text, stands, failed⟩ := fails
  cases stands with
  | field member inside =>
      exact ⟨below, text, .field (List.mem_cons_of_mem field member) inside, failed⟩

theorem FailsWithin.laterItem {item : Json} {rest : List Json}
    (fails : FailsWithin provided context optionally path (.array rest) fault) :
    FailsWithin provided context optionally path (.array (item :: rest)) fault := by
  obtain ⟨below, text, stands, failed⟩ := fails
  cases stands with
  | item member inside =>
      exact ⟨below, text, .item (List.mem_cons_of_mem item member) inside, failed⟩

theorem comes_text {text : String} {token : Token} (parsed : Token.ofTemplate text = .ok token) :
    Comes provided context optionally path (.string text)
      (resolveAt provided context optionally path (.token token)) := by
  have same : textAt provided context optionally path text =
      token.resolve provided context (optionally.contains path) := by
    rw [textAt, parsed]
    rfl
  rw [resolveAt, ← same]
  cases found : textAt provided context optionally path text with
  | error fault => exact ⟨path, text, .here, found⟩
  | ok resolved =>
      have absent : isAbsent provided context optionally path (.string text) =
          resolved.isMissing := by
        rw [isAbsent, found]
      cases resolved with
      | missing => exact absent
      | scalar inner => exact ⟨absent, .text found rfl⟩
      | list values => exact ⟨absent, .text found rfl⟩

theorem comes_constant {constant : Json} (isConstant : IsConstant constant) :
    Comes provided context optionally path constant
      (resolveAt provided context optionally path (.value constant)) := by
  rw [resolveAt]
  refine ⟨?_, .constant isConstant⟩
  cases isConstant <;> rfl

theorem forall₂_getElem? {α β : Type} {R : α → β → Prop} {items : List α} {others : List β}
    (related : List.Forall₂ R items others) {index : Nat} {item : α} {other : β}
    (isItem : items[index]? = some item) (isOther : others[index]? = some other) :
    R item other := by
  obtain ⟨inside, rfl⟩ := List.getElem?_eq_some_iff.mp isItem
  obtain ⟨otherInside, rfl⟩ := List.getElem?_eq_some_iff.mp isOther
  exact related.get inside otherInside

theorem keys_eq_of_forall₂ {α β : Type} {entries : Keyed α} {others : Keyed β}
    (same : List.Forall₂ (fun entry other => other.1 = entry.1) entries others) :
    Keyed.keys entries = Keyed.keys others := by
  induction same with
  | nil => rfl
  | cons first _ ih => exact congrArg₂ List.cons first.symm ih

theorem comes_object {fields : Json.Fields} {result : Except TemplateError Json.Fields}
    (come : FieldsCome provided context optionally path fields result) :
    Comes provided context optionally path (.object fields)
      (result.map fun values => some (.object values)) := by
  cases result with
  | error fault => exact come
  | ok values =>
      refine ⟨rfl, .object ?_ ?_⟩
      · exact (keys_eq_of_forall₂ (come.imp fun _ _ same => same.1)).symm
      · intro index field found isField isFound
        exact (forall₂_getElem? come isField isFound).2

theorem comes_array {items : List Json} {result : Except TemplateError (List Json)}
    (come : ItemsCome provided context optionally path items result) :
    Comes provided context optionally path (.array items)
      (result.map fun values => some (.array values)) := by
  cases result with
  | error fault => exact come
  | ok values =>
      refine ⟨rfl, .array (List.Forall₂.length_eq come).symm ?_ ?_⟩
      · intro index item found isItem isFound absent
        have here := forall₂_getElem? come isItem isFound
        rwa [if_pos absent] at here
      · intro index item found isItem isFound present
        have here := forall₂_getElem? come isItem isFound
        rwa [present, if_neg Bool.false_ne_true] at here

theorem fieldsCome_cons {name : String} {child : Json} {rest : Json.Fields}
    {result : Except TemplateError (Option Json)} {others : Except TemplateError Json.Fields}
    (first : Comes provided context optionally (childPath path name) child result)
    (behind : FieldsCome provided context optionally path rest others) :
    FieldsCome provided context optionally path ((name, child) :: rest) (do
      let child ← result
      let rest ← others
      match child with
      | some present => .ok ((name, present) :: rest)
      | none => .ok rest) := by
  cases result with
  | error fault => exact first.field List.mem_cons_self
  | ok found =>
      cases others with
      | error fault => exact behind.laterField
      | ok values =>
          cases found with
          | none =>
              change List.Forall₂ _ (present _ _ _ _ ((name, child) :: rest)) values
              rw [present_cons_of_absent rest first]
              exact behind
          | some found =>
              change List.Forall₂ _ (present _ _ _ _ ((name, child) :: rest))
                ((name, found) :: values)
              rw [present_cons_of_not_absent rest first.1]
              exact .cons ⟨rfl, first.2⟩ behind

theorem itemsCome_cons {item : Json} {rest : List Json}
    {result : Except TemplateError (Option Json)} {others : Except TemplateError (List Json)}
    (first : Comes provided context optionally path item result)
    (behind : ItemsCome provided context optionally path rest others) :
    ItemsCome provided context optionally path (item :: rest) (do
      let item ← result
      let rest ← others
      .ok (item.getD .null :: rest)) := by
  cases result with
  | error fault => exact first.item List.mem_cons_self
  | ok found =>
      cases others with
      | error fault => exact behind.laterItem
      | ok values =>
          refine .cons ?_ behind
          cases found with
          | none => exact if_pos first ▸ rfl
          | some found =>
              rw [first.1, if_neg Bool.false_ne_true]
              exact first.2

-- What is said of a template must cover texts that are missing, since the fields and items
-- around it treat them in two ways.
mutual

theorem comes_resolveAt (path : String) (template : Json) {tree : TemplateTree}
    (compiles : compile template = .ok tree) :
    Comes provided context optionally path template
      (resolveAt provided context optionally path tree) := by
  cases template with
  | string text =>
      rw [compile, map_eq_ok_iff] at compiles
      obtain ⟨token, parsed, rfl⟩ := compiles
      exact comes_text parsed
  | object fields =>
      rw [compile, map_eq_ok_iff] at compiles
      obtain ⟨trees, fieldsCompile, rfl⟩ := compiles
      rw [resolveAt]
      exact comes_object (fieldsCome_resolveFields path fields fieldsCompile)
  | array items =>
      rw [compile, map_eq_ok_iff] at compiles
      obtain ⟨trees, itemsCompile, rfl⟩ := compiles
      rw [resolveAt]
      exact comes_array (itemsCome_resolveItems path items itemsCompile)
  | null =>
      cases compiles
      exact comes_constant .null
  | bool flag =>
      cases compiles
      exact comes_constant (.bool flag)
  | number number =>
      cases compiles
      exact comes_constant (.number number)

theorem fieldsCome_resolveFields (path : String) (fields : Json.Fields)
    {trees : List (String × TemplateTree)} (compiles : compileFields fields = .ok trees) :
    FieldsCome provided context optionally path fields
      (resolveFields provided context optionally path trees) := by
  cases fields with
  | nil =>
      cases compiles
      exact .nil
  | cons field rest =>
      obtain ⟨name, child⟩ := field
      rw [compileFields] at compiles
      obtain ⟨tree, childCompiles, compiles⟩ := bind_eq_ok_iff.mp compiles
      obtain ⟨restTrees, restCompiles, compiles⟩ := bind_eq_ok_iff.mp compiles
      cases compiles
      have first := @comes_resolveAt (childPath path name) child _ childCompiles
      have behind := fieldsCome_resolveFields path rest restCompiles
      rw [resolveFields]
      exact fieldsCome_cons first behind

theorem itemsCome_resolveItems (path : String) (items : List Json)
    {trees : List TemplateTree} (compiles : compileItems items = .ok trees) :
    ItemsCome provided context optionally path items
      (resolveItems provided context optionally path trees) := by
  cases items with
  | nil =>
      cases compiles
      exact .nil
  | cons item rest =>
      rw [compileItems] at compiles
      obtain ⟨tree, itemCompiles, compiles⟩ := bind_eq_ok_iff.mp compiles
      obtain ⟨restTrees, restCompiles, compiles⟩ := bind_eq_ok_iff.mp compiles
      cases compiles
      have first := comes_resolveAt path item itemCompiles
      have behind := itemsCome_resolveItems path rest restCompiles
      rw [resolveItems]
      exact itemsCome_cons first behind

end

theorem isAbsent_iff {template : Json} :
    isAbsent provided context optionally path template = true ↔
      ∃ text, template = .string text ∧
        textAt provided context optionally path text = .ok .missing := by
  cases template with
  | string text =>
      rw [isAbsent]
      cases found : textAt provided context optionally path text with
      | error fault => simp [found]
      | ok resolved => cases resolved <;> simp [found, Resolved.isMissing]
  | _ => simp [isAbsent]

theorem exists_mirrored {fields values : Json.Fields}
    (keys : Keyed.keys values = Keyed.keys fields) {index : Nat} {field : String × Json}
    (isField : fields[index]? = some field) :
    ∃ found, values[index]? = some found ∧ found.1 = field.1 := by
  have named : (Keyed.keys values)[index]? = some field.1 := by
    rw [keys, Keyed.keys, List.getElem?_map, isField]
    rfl
  rwa [Keyed.keys, List.getElem?_map, Option.map_eq_some_iff] at named

theorem Mirrors.textAt_ok {template found : Json} {below text : String}
    (mirrors : Mirrors provided context optionally path template found)
    (stands : StandsIn below text path template) :
    ∃ resolved, textAt provided context optionally below text = .ok resolved := by
  induction mirrors with
  | text resolves _ =>
      cases stands
      exact ⟨_, resolves⟩
  | constant isConstant =>
      cases isConstant <;> cases stands
  | @array path items values same _ _ ih =>
      cases stands with
      | @item _ item _ member inside =>
          obtain ⟨index, isItem⟩ := List.mem_iff_getElem?.mp member
          cases absent : isAbsent provided context optionally path item with
          | true =>
              -- A missing text is not mirrored, only noted as null, but it did resolve.
              obtain ⟨_, rfl, missing⟩ := isAbsent_iff.mp absent
              cases inside
              exact ⟨_, missing⟩
          | false =>
              have within := (List.getElem?_eq_some_iff.mp isItem).1
              exact ih index item values[index] isItem
                (List.getElem?_eq_getElem (same ▸ within)) absent inside
  | @object path fields values keys _ ih =>
      cases stands with
      | @field _ name child _ member inside =>
          cases absent : isAbsent provided context optionally (childPath path name) child with
          | true =>
              obtain ⟨_, rfl, missing⟩ := isAbsent_iff.mp absent
              cases inside
              exact ⟨_, missing⟩
          | false =>
              have there : (name, child) ∈ present provided context optionally path fields :=
                List.mem_filter.mpr ⟨member, by simp [absent]⟩
              obtain ⟨index, isField⟩ := List.mem_iff_getElem?.mp there
              obtain ⟨found, isFound, _⟩ := exists_mirrored keys isField
              exact ih index _ found isField isFound inside

theorem Mirrors.eq_of_textless {template found : Json}
    (mirrors : Mirrors provided context optionally path template found)
    (textless : ∀ below text, ¬ StandsIn below text path template) : found = template := by
  induction mirrors with
  | text _ _ => exact absurd .here (textless _ _)
  | constant _ => rfl
  | @array path items values same _ _ ih =>
      congr 1
      apply List.ext_getElem same
      intro index inside within
      have without : ∀ below text, ¬ StandsIn below text path items[index] :=
        fun below text stands => textless below text (.item (List.getElem_mem within) stands)
      have there : isAbsent provided context optionally path items[index] = false := by
        rw [← Bool.not_eq_true, isAbsent_iff]
        rintro ⟨text, isText, _⟩
        exact without path text (isText ▸ .here)
      exact ih index _ _ (List.getElem?_eq_getElem within) (List.getElem?_eq_getElem inside) there
        without
  | @object path fields values keys _ ih =>
      have without : ∀ field ∈ fields, ∀ below text,
          ¬ StandsIn below text (childPath path field.1) field.2 :=
        fun field member below text stands => textless below text (.field member stands)
      have whole : present provided context optionally path fields = fields := by
        apply List.filter_eq_self.mpr
        intro field member
        rw [Bool.not_eq_true', ← Bool.not_eq_true, isAbsent_iff]
        rintro ⟨text, isText, _⟩
        apply without field member _ text
        rw [isText]
        exact .here
      rw [whole] at keys ih
      congr 1
      have sameLength : values.length = fields.length := by
        simpa [Keyed.keys] using congrArg List.length keys
      apply List.ext_getElem sameLength
      intro index inside within
      have isField := List.getElem?_eq_getElem within
      obtain ⟨found, isFound, sameName⟩ := exists_mirrored keys isField
      obtain ⟨_, rfl⟩ := List.getElem?_eq_some_iff.mp isFound
      exact Prod.ext sameName
        (ih index _ _ isField isFound (without _ (List.getElem_mem within)))

theorem Comes.textAt_ok {template : Json} {found : Option Json} {below text : String}
    (comes : Comes provided context optionally path template (.ok found))
    (stands : StandsIn below text path template) :
    ∃ resolved, textAt provided context optionally below text = .ok resolved := by
  cases found with
  | none =>
      obtain ⟨_, rfl, missing⟩ := isAbsent_iff.mp comes
      cases stands
      exact ⟨_, missing⟩
  | some value => exact comes.2.textAt_ok stands

theorem Comes.eq_none_iff {template : Json} {found : Option Json}
    (comes : Comes provided context optionally path template (.ok found)) :
    found = none ↔ isAbsent provided context optionally path template = true := by
  cases found with
  | none => exact ⟨fun _ => comes, fun _ => rfl⟩
  | some value => simp [comes.1]

theorem Comes.eq_of_textless {template : Json} {found : Option Json}
    (comes : Comes provided context optionally path template (.ok found))
    (textless : ∀ below text, ¬ StandsIn below text path template) : found = some template := by
  cases found with
  | none =>
      obtain ⟨text, rfl, _⟩ := isAbsent_iff.mp comes
      exact absurd .here (textless path text)
  | some value => rw [comes.2.eq_of_textless textless]

/-- A template that compiles fails at a row just if one of its texts does.  If none does, it
comes to a value of its own shape, which is the template itself if there are no texts in it;
and to nothing only if it is a text, and missing. -/
theorem resolve_keeps_shape {template : Json} {tree : TemplateTree}
    (compiles : compile template = .ok tree) (provided : List Handler) (context : RowContext)
    (optionally : List String) :
    ((∃ fault, tree.resolve provided context optionally = .error fault) ↔
      ∃ fault, FailsWithin provided context optionally "" template fault) ∧
    ∀ found, tree.resolve provided context optionally = .ok found →
      (∀ value, found = some value →
        Mirrors provided context optionally "" template value) ∧
      (found = none ↔ ∃ text, template = .string text ∧
        textAt provided context optionally "" text = .ok .missing) ∧
      ((∀ path text, ¬ StandsIn path text "" template) → found = some template) := by
  have comes := @comes_resolveAt provided context optionally "" template tree compiles
  rw [resolve]
  cases resolves : resolveAt provided context optionally "" tree with
  | error fault =>
      rw [resolves] at comes
      exact ⟨⟨fun _ => ⟨fault, comes⟩, fun _ => ⟨fault, rfl⟩⟩, nofun⟩
  | ok found =>
      rw [resolves] at comes
      constructor
      · constructor
        · rintro ⟨_, failed⟩
          cases failed
        · rintro ⟨fault, below, text, stands, failed⟩
          obtain ⟨resolved, succeeds⟩ := comes.textAt_ok stands
          cases failed.symm.trans succeeds
      · rintro _ ⟨⟩
        refine ⟨?_, comes.eq_none_iff.trans isAbsent_iff, comes.eq_of_textless⟩
        rintro value rfl
        exact comes.2

end TemplateTree

/-- A row of a station and a temperature, without a dew point. -/
def RowContext.dry : RowContext :=
  ⟨.rows ⟨[], [[("station", .string "KDEN"), ("temp", .ofNat 281)]]⟩, 0, []⟩

/-- A template with missing texts in an object and in an array, and with constants. -/
def Json.observation : Json :=
  .object [("id", .string "DD:*station"), ("note", .null),
    ("obs", .object [("dewpoint", .string "*dewpoint"), ("temp", .string "*temp")]),
    ("tags", .array [.string "*station", .string "*dewpoint", .array []]), ("version", .ofNat 1)]

theorem TemplateTree.resolve_keeps_shape_observation :
    ∃ tree, compile .observation = .ok tree ∧
      Mirrors Handler.common .dry [] "" .observation
        (.object [("id", .string "DD:KDEN"), ("note", .null),
          ("obs", .object [("temp", .ofNat 281)]),
          ("tags", .array [.string "KDEN", .null, .array []]), ("version", .ofNat 1)]) := by
  have compiles : compile .observation = .ok (.object [
      ("id", .token (.composite [.literal "DD", .field "station"])), ("note", .value .null),
      ("obs", .object [("dewpoint", .token (.field "dewpoint")), ("temp", .token (.field "temp"))]),
      ("tags", .array [.token (.field "station"), .token (.field "dewpoint"), .array []]),
      ("version", .value (.ofNat 1))]) := rfl
  refine ⟨_, compiles, ?_⟩
  exact ((resolve_keeps_shape compiles Handler.common .dry []).2 _ rfl).1 _ rfl

end DocumentIngest
