import RefStability.Document.Decode
import RefStability.Document.Encode
import RefStability.Proofs.SourceOrder

/-!
# Documents survive JSON

A document is written with every field present, each under its own name and in declaration order, so
that reading finds each of them once. The reader is given as much room as the JSON value is deep,
and what is nested in a record is less deep than the record.
-/

namespace RefStability

/-! ### Depth and readability -/

namespace Json

theorem itemsDepth_le_iff {items : List Json} {bound : Nat} :
    itemsDepth items ≤ bound ↔ ∀ item ∈ items, item.depth ≤ bound := by
  induction items with
  | nil => simp [itemsDepth]
  | cons item rest ih => rw [itemsDepth, Nat.max_le, ih, List.forall_mem_cons]

theorem fieldsDepth_le_iff {fields : List (String × Json)} {bound : Nat} :
    fieldsDepth fields ≤ bound ↔ ∀ field ∈ fields, field.2.depth ≤ bound := by
  induction fields with
  | nil => simp [fieldsDepth]
  | cons field rest ih => rw [fieldsDepth, Nat.max_le, ih, List.forall_mem_cons]

/-- The values of an object are less deep than the object. -/
theorem depth_le_of_field {fields : List (String × Json)} {room : Nat}
    (hdepth : (object fields).depth ≤ room + 1) (name : String) {value : Json}
    (hvalue : (name, value) ∈ fields) : value.depth ≤ room :=
  fieldsDepth_le_iff.mp (Nat.le_of_succ_le_succ hdepth) _ hvalue

theorem depth_lt_of_item {items : List Json} {item : Json} (hitem : item ∈ items) :
    item.depth < (array items).depth :=
  Nat.lt_succ_of_le (itemsDepth_le_iff.mp (Nat.le_refl _) _ hitem)

theorem depth_array_cons_le_iff {item : Json} {rest : List Json} {room : Nat} :
    (array (item :: rest)).depth ≤ room ↔ item.depth < room ∧ (array rest).depth ≤ room := by
  simp only [depth, itemsDepth]
  omega

theorem isReadable_string (text : String) : (string text).isReadable = true := rfl

theorem isReadable_ofOption {α : Type} {encode : α → Json}
    (hreadable : ∀ value, (encode value).isReadable = true) (value : Option α) :
    (ofOption encode value).isReadable = true := by
  cases value with
  | none => rfl
  | some value => exact hreadable value

theorem option?_some {α : Type} {decode : Json → Option α} {json : Json} {value : α}
    (hnull : json ≠ .null) (hdecode : decode json = some value) :
    option? decode json = some (some value) := by
  unfold option?
  split
  · exact absurd rfl hnull
  · rw [hdecode, Option.map_some]

theorem natBelow?_ofNat {bound value : Nat} (hvalue : value < bound) :
    natBelow? bound (.ofNat value) = some value :=
  if_pos hvalue

theorem lt_of_natBelow? {bound value : Nat} {json : Json}
    (hvalue : natBelow? bound json = some value) : value < bound := by
  unfold natBelow? at hvalue
  split at hvalue
  · rw [Option.ite_none_right_eq_some, Option.some.injEq] at hvalue
    obtain ⟨hlt, rfl⟩ := hvalue
    exact hlt
  · cases hvalue

theorem list?_cons {α : Type} {decode : Json → Option α} {item : Json} {rest : List Json}
    {value : α} {values : List α} (hitem : decode item = some value)
    (hrest : list? decode (array rest) = some values) :
    list? decode (array (item :: rest)) = some (value :: values) := by
  rw [list?] at hrest
  rw [list?, List.mapM_cons, hitem, hrest]
  rfl

theorem list?_ofList {α : Type} {decode : Json → Option α} {encode : α → Json} {values : List α}
    (hdecode : ∀ value ∈ values, decode (encode value) = some value) :
    list? decode (ofList encode values) = some values := by
  induction values with
  | nil => rfl
  | cons value rest ih =>
      rw [List.forall_mem_cons] at hdecode
      exact list?_cons hdecode.1 (ih hdecode.2)

end Json

namespace Document

/-! ### Records -/

namespace Record

variable {α : Type} {fields : List (String × Json)}

theorem filter_key_of_notMem {name : String} (hfresh : name ∉ fields.map Prod.fst) :
    (fields.filter fun field => field.1 == name) = [] := by
  refine List.filter_eq_nil_iff.mpr fun field hfield hname => hfresh ?_
  exact eq_of_beq hname ▸ List.mem_map_of_mem hfield

/-- The tag of a record is found wherever no field has its name. -/
theorem tagged?_object {name : String} {tag : Json} (hfresh : name ∉ fields.map Prod.fst) :
    tagged? name (.object ((name, tag) :: fields)) = some (tag, .object fields) := by
  have hrest : (fields.filter fun field => field.1 != name) = fields := by
    refine List.filter_eq_self.mpr fun field hfield => bne_iff_ne.mpr fun hname => hfresh ?_
    exact hname ▸ List.mem_map_of_mem hfield
  simp [tagged?, filter_key_of_notMem hfresh, hrest]

theorem field?_of_mem (hnodup : (fields.map Prod.fst).Nodup) {field : String × Json}
    (hfield : field ∈ fields) : field? fields field.1 = some (some field.2) := by
  induction fields with
  | nil => cases hfield
  | cons first rest ih =>
      rw [List.map_cons, List.nodup_cons] at hnodup
      obtain ⟨hfresh, hnodup⟩ := hnodup
      rcases List.mem_cons.mp hfield with rfl | hrest
      · simp [field?, filter_key_of_notMem hfresh]
      · have hne : (first.1 == field.1) = false := by
          refine beq_eq_false_iff_ne.mpr fun heq => hfresh ?_
          exact heq ▸ List.mem_map_of_mem hrest
        rw [← ih hnodup hrest]
        simp [field?, hne]

/-- A record that gives each declared field once, in order, has the values that are given. -/
theorem values?_object {names : List String} (hnames : fields.map Prod.fst = names)
    (hnodup : names.Nodup) :
    values? names (.object fields) = some (fields.map fun field => some field.2) := by
  subst hnames
  have hpart : ∀ part ⊆ fields, (part.map Prod.fst).mapM (field? fields) =
      some (part.map fun field => some field.2) := by
    intro part hsubset
    induction part with
    | nil => rfl
    | cons field rest ih =>
        rw [List.cons_subset] at hsubset
        rw [List.map_cons, List.mapM_cons, field?_of_mem hnodup hsubset.1, ih hsubset.2]
        rfl
  exact hpart fields (List.Subset.refl _)

/-- A tagged record that gives the fields of its tag once, in order, is read as the tag and the
values that are given. -/
theorem variant?_object {names : List (String × α)} {declared : α → List String}
    {tagName text : String} {tag : α} {isNested : Bool} (htag : names.lookup text = some tag)
    (hfields : fields.map Prod.fst = declared tag) (hnodup : (tagName :: declared tag).Nodup) :
    variant? tagName isNested names declared (.object ((tagName, .string text) :: fields)) =
      some (tag, fields.map fun field => some field.2) := by
  obtain ⟨hfresh, hnodup⟩ := List.nodup_cons.mp hnodup
  rw [← hfields] at hfresh
  have htext : tag? isNested names (.string text) = some tag := htag
  rw [variant?, tagged?_object hfresh]
  simp only [Option.bind_eq_bind, Option.bind_some, htext, values?_object hfields hnodup,
    Option.pure_def]

theorem optional_ofOption {decode : Json → Option α} {encode : α → Json}
    (hnull : ∀ value, encode value ≠ .null) {value : Option α}
    (hdecode : ∀ inner ∈ value, decode (encode inner) = some inner) :
    optional decode (some (Json.ofOption encode value)) = some value := by
  cases value with
  | none => rfl
  | some inner => exact Json.option?_some (hnull inner) (hdecode inner rfl)

theorem optional_some {decode : Json → Option α} {json : Json} {value : α} (hnull : json ≠ .null)
    (hdecode : decode json = some value) : optional decode (some json) = some (some value) :=
  Json.option?_some hnull hdecode

theorem optional_null {decode : Json → Option α} : optional decode (some .null) = some none := rfl

theorem optional_text (value : Option String) :
    optional Json.text? (some (Json.ofOption .string value)) = some value :=
  optional_ofOption (fun _ => Json.noConfusion) fun _ _ => rfl

end Record

open Record

/-! ### Declarations -/

theorem TypeDecl.decode_toJson (type : TypeDecl) : TypeDecl.decode type.toJson = some type := by
  rw [TypeDecl.decode, TypeDecl.toJson, values?_object (by rfl) (by decide)]
  rfl

theorem Param.decode_toJson (param : Param) : Param.decode param.toJson = some param := by
  rw [Param.decode, Param.toJson, values?_object (by rfl) (by decide)]
  simp only [List.map_cons, List.map_nil, Option.bind_eq_bind, Option.bind_some, required, orElse,
    Json.text?, Json.bool?, optional_text, Option.pure_def]

theorem choice?_localKind (kind : LocalKind) :
    choice? false LocalKind.names (.string kind.name) = some kind := by
  cases kind <;> rfl

theorem Local.decode_toJson (declared : Local) : Local.decode declared.toJson = some declared := by
  rw [Local.decode, Local.toJson, values?_object (by rfl) (by decide)]
  simp only [List.map_cons, List.map_nil, Option.bind_eq_bind, Option.bind_some, required, orElse,
    Json.text?, optional_text, choice?_localKind, Option.pure_def]

/-! ### Expressions -/

theorem Expr.toJson_ne_null (expr : Expr) : expr.toJson ≠ .null := by
  cases expr <;> exact Json.noConfusion

theorem Expr.depth_toJson_pos (expr : Expr) : 0 < expr.toJson.depth := by
  cases expr <;> exact Nat.succ_pos _

theorem choice?_passMode (mode : PassMode) :
    choice? true PassMode.names (.string mode.name) = some mode := by
  cases mode <;> rfl

theorem decodeArgument_object {decode : Json → Option Expr} {json : Json} {expr : Expr}
    (mode : PassMode) (hexpr : decode json = some expr) :
    decodeArgument decode (.object [("expr", json), ("mode", .string mode.name)]) =
      some (mode, expr) := by
  rw [decodeArgument, values?_object (by rfl) (by decide)]
  simp [required, orElse, hexpr, choice?_passMode]

theorem Expr.decode_object {room : Nat} {text : String} (tag : ExprTag)
    (htag : ExprTag.names.lookup text = some tag) {fields : List (String × Json)}
    (hfields : fields.map Prod.fst = tag.fields) :
    Expr.decode (room + 1) (.object (("expr", .string text) :: fields)) =
      Expr.ofFields (Expr.decode room) tag (fields.map fun field => some field.2) := by
  have hnodup : ("expr" :: tag.fields).Nodup := by cases tag <;> decide
  rw [Expr.decode, variant?_object htag hfields hnodup]
  rfl

mutual

theorem Expr.decode_toJson (expr : Expr) {room : Nat} (hdepth : expr.toJson.depth ≤ room) :
    Expr.decode room expr.toJson = some expr := by
  obtain ⟨room, rfl⟩ : ∃ inner, room = inner + 1 :=
    Nat.exists_eq_add_one.mpr (Nat.lt_of_lt_of_le expr.depth_toJson_pos hdepth)
  cases expr with
  | literal => rfl
  | ident name =>
      rw [Expr.toJson, Expr.decode_object .ident (by rfl) (by rfl)]
      rfl
  | staticField name ty =>
      rw [Expr.toJson, Expr.decode_object .field (by rfl) (by rfl)]
      simp [Expr.ofFields, required, Json.text?, optional_text, optional_null]
  | field receiver name ty =>
      have hreceiver := Expr.decode_toJson receiver
        (Json.depth_le_of_field hdepth "receiver" (by simp))
      rw [Expr.toJson, Expr.decode_object .field (by rfl) (by rfl)]
      simp [Expr.ofFields, required, Json.text?, optional_text,
        optional_some receiver.toJson_ne_null hreceiver]
  | index receiver operands ty =>
      have hreceiver := Expr.decode_toJson receiver
        (Json.depth_le_of_field hdepth "receiver" (by simp))
      have hoperands := Expr.decode_listToJson operands
        (Json.depth_le_of_field hdepth "index" (by simp))
      rw [Expr.toJson, Expr.decode_object .index (by rfl) (by rfl)]
      simp [Expr.ofFields, required, orElse, optional_text, hreceiver, hoperands]
  | slice receiver operands ty =>
      have hreceiver := Expr.decode_toJson receiver
        (Json.depth_le_of_field hdepth "receiver" (by simp))
      have hoperands := Expr.decode_listToJson operands
        (Json.depth_le_of_field hdepth "range" (by simp))
      rw [Expr.toJson, Expr.decode_object .slice (by rfl) (by rfl)]
      simp [Expr.ofFields, required, orElse, optional_text, hreceiver, hoperands]
  | scopeValue scope ty =>
      have hscope := Expr.decode_toJson scope (Json.depth_le_of_field hdepth "scope" (by simp))
      rw [Expr.toJson, Expr.decode_object .scopeValue (by rfl) (by rfl)]
      simp [Expr.ofFields, required, optional_text, hscope]
  | call method args ty =>
      have hargs := Expr.decode_argsToJson args (Json.depth_le_of_field hdepth "args" (by simp))
      rw [Expr.toJson, Expr.decode_object .call (by rfl) (by rfl)]
      simp [Expr.ofFields, required, orElse, Json.text?, optional_text, hargs]
  | computed operands ty =>
      have hoperands := Expr.decode_listToJson operands
        (Json.depth_le_of_field hdepth "operands" (by simp))
      rw [Expr.toJson, Expr.decode_object .computed (by rfl) (by rfl)]
      simp [Expr.ofFields, orElse, optional_text, hoperands]

theorem Expr.decode_listToJson (exprs : List Expr) {room : Nat}
    (hdepth : (Json.array (Expr.listToJson exprs)).depth ≤ room) :
    Json.list? (Expr.decode room) (.array (Expr.listToJson exprs)) = some exprs := by
  cases exprs with
  | nil => rfl
  | cons expr rest =>
      rw [Expr.listToJson, Json.depth_array_cons_le_iff] at hdepth
      exact Json.list?_cons (Expr.decode_toJson expr (Nat.le_of_lt hdepth.1))
        (Expr.decode_listToJson rest hdepth.2)

theorem Expr.decode_argsToJson (args : List (PassMode × Expr)) {room : Nat}
    (hdepth : (Json.array (Expr.argsToJson args)).depth ≤ room) :
    Json.list? (decodeArgument (Expr.decode room)) (.array (Expr.argsToJson args)) = some args := by
  cases args with
  | nil => rfl
  | cons argument rest =>
      obtain ⟨mode, expr⟩ := argument
      rw [Expr.argsToJson, Json.depth_array_cons_le_iff] at hdepth
      have hexpr := Expr.decode_toJson expr
        (Json.depth_le_of_field (Nat.le_succ_of_le (Nat.le_of_lt hdepth.1)) "expr" (by simp))
      exact Json.list?_cons (decodeArgument_object mode hexpr)
        (Expr.decode_argsToJson rest hdepth.2)

end

/-! ### Statements -/

theorem Stmt.depth_toJson_pos (stmt : Stmt) : 0 < stmt.toJson.depth := by
  cases stmt <;> exact Nat.succ_pos _

theorem Expr.decode_ofOption (value : Option Expr) {room : Nat}
    (hdepth : (Json.ofOption Expr.toJson value).depth ≤ room) :
    optional (Expr.decode room) (some (Json.ofOption Expr.toJson value)) = some value := by
  refine optional_ofOption Expr.toJson_ne_null fun inner hinner => inner.decode_toJson ?_
  rw [Option.mem_def.mp hinner] at hdepth
  exact hdepth

theorem Stmt.decode_object {isNested : Bool} {room : Nat} {text : String} (tag : StmtTag)
    (htag : StmtTag.names.lookup text = some tag) {fields : List (String × Json)}
    (hfields : fields.map Prod.fst = tag.fields) :
    Stmt.decode isNested (room + 1) (.object (("stmt", .string text) :: fields)) =
      Stmt.ofFields (Expr.decode room) (Json.list? (Stmt.decode true room)) tag
        (fields.map fun field => some field.2) := by
  have hnodup : ("stmt" :: tag.fields).Nodup := by cases tag <;> decide
  rw [Stmt.decode, variant?_object htag hfields hnodup]
  rfl

mutual

theorem Stmt.decode_toJson (stmt : Stmt) {isNested : Bool} {room : Nat}
    (hdepth : stmt.toJson.depth ≤ room) :
    Stmt.decode isNested room stmt.toJson = some stmt := by
  obtain ⟨room, rfl⟩ : ∃ inner, room = inner + 1 :=
    Nat.exists_eq_add_one.mpr (Nat.lt_of_lt_of_le stmt.depth_toJson_pos hdepth)
  cases stmt with
  | declare target init =>
      have hinit := Expr.decode_ofOption init (Json.depth_le_of_field hdepth "init" (by simp))
      rw [Stmt.toJson, Stmt.decode_object .declare (by rfl) (by rfl)]
      simp [Stmt.ofFields, required, Json.text?, hinit]
  | rebind target value =>
      have hvalue := value.decode_toJson (Json.depth_le_of_field hdepth "value" (by simp))
      rw [Stmt.toJson, Stmt.decode_object .rebind (by rfl) (by rfl)]
      simp [Stmt.ofFields, required, Json.text?, hvalue]
  | assign target value =>
      have htarget := target.decode_toJson (Json.depth_le_of_field hdepth "target" (by simp))
      have hvalue := value.decode_toJson (Json.depth_le_of_field hdepth "value" (by simp))
      rw [Stmt.toJson, Stmt.decode_object .assign (by rfl) (by rfl)]
      simp [Stmt.ofFields, required, htarget, hvalue]
  | eval value =>
      have hvalue := value.decode_toJson (Json.depth_le_of_field hdepth "expr" (by simp))
      rw [Stmt.toJson, Stmt.decode_object .eval (by rfl) (by rfl)]
      simp [Stmt.ofFields, required, hvalue]
  | ret value =>
      have hvalue := Expr.decode_ofOption value (Json.depth_le_of_field hdepth "value" (by simp))
      rw [Stmt.toJson, Stmt.decode_object .ret (by rfl) (by rfl)]
      simp [Stmt.ofFields, hvalue]
  | block body =>
      have hbody := Stmt.decode_listToJson body (Json.depth_le_of_field hdepth "stmts" (by simp))
      rw [Stmt.toJson, Stmt.decode_object .block (by rfl) (by rfl)]
      simp [Stmt.ofFields, required, hbody]
  | ifThen condition thenBody =>
      have hcondition := condition.decode_toJson (Json.depth_le_of_field hdepth "cond" (by simp))
      have hthen := Stmt.decode_listToJson thenBody
        (Json.depth_le_of_field hdepth "then" (by simp))
      rw [Stmt.toJson, Stmt.decode_object .branch (by rfl) (by rfl)]
      simp [Stmt.ofFields, required, optional_null, hcondition, hthen]
  | ifElse condition thenBody elseBody =>
      have hcondition := condition.decode_toJson (Json.depth_le_of_field hdepth "cond" (by simp))
      have hthen := Stmt.decode_listToJson thenBody
        (Json.depth_le_of_field hdepth "then" (by simp))
      have helse := Stmt.decode_listToJson elseBody
        (Json.depth_le_of_field hdepth "otherwise" (by simp))
      rw [Stmt.toJson, Stmt.decode_object .branch (by rfl) (by rfl)]
      simp [Stmt.ofFields, required, hcondition, hthen, optional_some Json.noConfusion helse]
  | loop condition body =>
      have hcondition := condition.decode_toJson (Json.depth_le_of_field hdepth "cond" (by simp))
      have hbody := Stmt.decode_listToJson body (Json.depth_le_of_field hdepth "body" (by simp))
      rw [Stmt.toJson, Stmt.decode_object .loop (by rfl) (by rfl)]
      simp [Stmt.ofFields, required, hcondition, hbody]
  | forEach item collection body =>
      have hcollection := collection.decode_toJson
        (Json.depth_le_of_field hdepth "collection" (by simp))
      have hbody := Stmt.decode_listToJson body (Json.depth_le_of_field hdepth "body" (by simp))
      rw [Stmt.toJson, Stmt.decode_object .forEach (by rfl) (by rfl)]
      simp [Stmt.ofFields, required, Json.text?, hcollection, hbody]

theorem Stmt.decode_listToJson (stmts : List Stmt) {room : Nat}
    (hdepth : (Json.array (Stmt.listToJson stmts)).depth ≤ room) :
    Json.list? (Stmt.decode true room) (.array (Stmt.listToJson stmts)) = some stmts := by
  cases stmts with
  | nil => rfl
  | cons stmt rest =>
      rw [Stmt.listToJson, Json.depth_array_cons_le_iff] at hdepth
      exact Json.list?_cons (Stmt.decode_toJson stmt (Nat.le_of_lt hdepth.1))
        (Stmt.decode_listToJson rest hdepth.2)

end

/-! ### Readability -/

mutual

theorem Expr.isReadable_toJson (expr : Expr) : expr.toJson.isReadable = true := by
  have htype := Json.isReadable_ofOption Json.isReadable_string
  cases expr with
  | literal => rfl
  | ident name => rfl
  | staticField name ty => simp [Expr.toJson, Json.isReadable, Json.fieldsReadable, htype]
  | field receiver name ty =>
      simp [Expr.toJson, Json.isReadable, Json.fieldsReadable, htype,
        Expr.isReadable_toJson receiver]
  | index receiver operands ty =>
      simp [Expr.toJson, Json.isReadable, Json.fieldsReadable, htype,
        Expr.isReadable_toJson receiver, Expr.itemsReadable_listToJson operands]
  | slice receiver operands ty =>
      simp [Expr.toJson, Json.isReadable, Json.fieldsReadable, htype,
        Expr.isReadable_toJson receiver, Expr.itemsReadable_listToJson operands]
  | scopeValue scope ty =>
      simp [Expr.toJson, Json.isReadable, Json.fieldsReadable, htype, Expr.isReadable_toJson scope]
  | call method args ty =>
      simp [Expr.toJson, Json.isReadable, Json.fieldsReadable, htype,
        Expr.itemsReadable_argsToJson args]
  | computed operands ty =>
      simp [Expr.toJson, Json.isReadable, Json.fieldsReadable, htype,
        Expr.itemsReadable_listToJson operands]

theorem Expr.itemsReadable_listToJson (exprs : List Expr) :
    Json.itemsReadable (Expr.listToJson exprs) = true := by
  cases exprs with
  | nil => rfl
  | cons expr rest =>
      simp [Expr.listToJson, Json.itemsReadable, Expr.isReadable_toJson expr,
        Expr.itemsReadable_listToJson rest]

theorem Expr.itemsReadable_argsToJson (args : List (PassMode × Expr)) :
    Json.itemsReadable (Expr.argsToJson args) = true := by
  cases args with
  | nil => rfl
  | cons argument rest =>
      obtain ⟨mode, expr⟩ := argument
      simp [Expr.argsToJson, Json.itemsReadable, Json.isReadable, Json.fieldsReadable,
        Expr.isReadable_toJson expr, Expr.itemsReadable_argsToJson rest]

end

mutual

theorem Stmt.isReadable_toJson (stmt : Stmt) : stmt.toJson.isReadable = true := by
  have hexpr := Expr.isReadable_toJson
  cases stmt with
  | declare | rebind | assign | eval | ret =>
      simp [Stmt.toJson, Json.isReadable, Json.fieldsReadable, hexpr,
        Json.isReadable_ofOption hexpr]
  | block body =>
      simp [Stmt.toJson, Json.isReadable, Json.fieldsReadable, Stmt.itemsReadable_listToJson body]
  | ifThen condition thenBody =>
      simp [Stmt.toJson, Json.isReadable, Json.fieldsReadable, hexpr,
        Stmt.itemsReadable_listToJson thenBody]
  | ifElse condition thenBody elseBody =>
      simp [Stmt.toJson, Json.isReadable, Json.fieldsReadable, hexpr,
        Stmt.itemsReadable_listToJson thenBody, Stmt.itemsReadable_listToJson elseBody]
  | loop condition body =>
      simp [Stmt.toJson, Json.isReadable, Json.fieldsReadable, hexpr,
        Stmt.itemsReadable_listToJson body]
  | forEach item collection body =>
      simp [Stmt.toJson, Json.isReadable, Json.fieldsReadable, hexpr,
        Stmt.itemsReadable_listToJson body]

theorem Stmt.itemsReadable_listToJson (stmts : List Stmt) :
    Json.itemsReadable (Stmt.listToJson stmts) = true := by
  cases stmts with
  | nil => rfl
  | cons stmt rest =>
      simp [Stmt.listToJson, Json.itemsReadable, Stmt.isReadable_toJson stmt,
        Stmt.itemsReadable_listToJson rest]

end

/-! ### Methods and programs -/

theorem Stmt.decodeOutermost_toJson (stmt : Stmt) {room : Nat} (hdepth : stmt.toJson.depth ≤ room) :
    Stmt.decodeOutermost room stmt.toJson = some stmt := by
  rw [Stmt.decodeOutermost, if_pos]
  · exact stmt.decode_toJson hdepth
  · simp [stmt.isReadable_toJson, hdepth]

theorem Stmt.decodeOutermost_listToJson (stmts : List Stmt) {room : Nat}
    (hdepth : (Json.array (Stmt.listToJson stmts)).depth ≤ room + 1) :
    Json.list? (Stmt.decodeOutermost room) (.array (Stmt.listToJson stmts)) = some stmts := by
  induction stmts with
  | nil => rfl
  | cons stmt rest ih =>
      rw [Stmt.listToJson, Json.depth_array_cons_le_iff] at hdepth
      exact Json.list?_cons (stmt.decodeOutermost_toJson (Nat.le_of_lt_succ hdepth.1))
        (ih hdepth.2)

theorem choice?_methodKind (kind : MethodKind) :
    choice? false MethodKind.names (.string kind.name) = some kind := by
  cases kind <;> rfl

theorem Method.decode_toJson (method : Method) {room : Nat}
    (hdepth : method.toJson.depth ≤ room + 2) : Method.decode room method.toJson = some method := by
  have hparams : Json.list? Param.decode (Json.ofList Param.toJson method.params) =
      some method.params := Json.list?_ofList fun param _ => param.decode_toJson
  have hlocals : Json.list? Local.decode (Json.ofList Local.toJson method.locals) =
      some method.locals := Json.list?_ofList fun declared _ => declared.decode_toJson
  have hpath : Record.optional (Json.list? Json.text?)
      (some (Json.ofOption (Json.ofList .string) method.path)) = some method.path :=
    optional_ofOption (fun _ => Json.noConfusion) fun _ _ => Json.list?_ofList fun _ _ => rfl
  have hbody : Record.optional (Json.list? (Stmt.decodeOutermost room))
      (some (Json.ofOption (fun body => .array (Stmt.listToJson body)) method.body)) =
        some method.body := by
    have hbodyDepth : (Json.ofOption (fun body => .array (Stmt.listToJson body))
        method.body).depth ≤ room + 1 := Json.depth_le_of_field hdepth "body" (by simp)
    refine optional_ofOption (fun _ => Json.noConfusion) fun stmts hstmts => ?_
    rw [Option.mem_def.mp hstmts] at hbodyDepth
    exact Stmt.decodeOutermost_listToJson stmts hbodyDepth
  rw [Method.decode, Method.toJson, values?_object (by rfl) (by decide)]
  simp [required, orElse, Json.text?, Json.bool?, optional_text, choice?_methodKind, hparams,
    hlocals, hpath, hbody]

/-- A method has arrays in it, so that it is at least two levels deep. -/
theorem Method.two_le_depth_toJson (method : Method) : 2 ≤ method.toJson.depth := by
  simp only [Method.toJson, Json.depth, Json.fieldsDepth, Json.ofList]
  omega

theorem Program.ofJson?_toJson {document : Program} (hfile : document.file < Nat.pow 2 32) :
    Program.ofJson? document.toJson = some document := by
  have htypes : Json.list? TypeDecl.decode (Json.ofList TypeDecl.toJson document.types) =
      some document.types := Json.list?_ofList fun type _ => type.decode_toJson
  have hmethods : Json.list? (Method.decode (document.toJson.depth - levelsAroundStmt))
      (Json.ofList Method.toJson document.methods) = some document.methods := by
    refine Json.list?_ofList fun method hmethod => method.decode_toJson ?_
    obtain ⟨room, hroom⟩ : ∃ room, document.toJson.depth = room + 1 := ⟨_, rfl⟩
    have hlist : (Json.ofList Method.toJson document.methods).depth ≤ room :=
      Json.depth_le_of_field (Nat.le_of_eq hroom) "methods" (by simp)
    have hitem : method.toJson.depth < (Json.ofList Method.toJson document.methods).depth :=
      Json.depth_lt_of_item (List.mem_map_of_mem hmethod)
    have hnested := method.two_le_depth_toJson
    rw [hroom, levelsAroundStmt]
    omega
  rw [Program.ofJson?, Program.decode]
  generalize document.toJson.depth - levelsAroundStmt = room at hmethods ⊢
  rw [Program.toJson, values?_object (by rfl) (by decide)]
  simp [orElse, Json.natBelow?_ofNat hfile, htypes, hmethods]

theorem Program.file_lt_of_ofJson? {json : Json} {document : Program}
    (hread : Program.ofJson? json = some document) : document.file < Nat.pow 2 32 := by
  rw [Program.ofJson?, Program.decode, Option.bind_eq_bind, Option.bind_eq_some_iff] at hread
  obtain ⟨values, _, hread⟩ := hread
  split at hread
  · simp only [Option.bind_eq_bind, Option.bind_eq_some_iff, Option.pure_def,
      Option.some.injEq] at hread
    obtain ⟨file, hfile, _, _, _, _, rfl⟩ := hread
    unfold orElse at hfile
    split at hfile
    · cases hfile
      change 0 < Nat.pow 2 32
      decide
    · exact Json.lt_of_natBelow? hfile
  · cases hread

/-- The JSON value of the document that a JSON value is read as. -/
def Program.rewritten? (json : Json) : Option Json := (Program.ofJson? json).map Program.toJson

end Document

/-- A document that is written as JSON is read back as it was. So what is read and written once is
not changed by reading and writing it again. -/
theorem documents_survive_json :
    (∀ document : Document.Program, document.file < Nat.pow 2 32 →
      Document.Program.ofJson? document.toJson = some document) ∧
    ∀ json written, Document.Program.rewritten? json = some written →
      Document.Program.rewritten? written = some written := by
  refine ⟨fun document hfile => Document.Program.ofJson?_toJson hfile, fun json written hjson => ?_⟩
  obtain ⟨document, hread, rfl⟩ := Option.map_eq_some_iff.mp hjson
  have hfile := Document.Program.file_lt_of_ofJson? hread
  rw [Document.Program.rewritten?, Document.Program.ofJson?_toJson hfile, Option.map_some]

/-- A document in its shortest form: records as arrays, trailing fields left out, and the tag of an
inner record given by its number. -/
def shortJson : Json :=
  .array [.integer 7, .array [],
    .array [.array [.string "run", .null, .array [], .object [("slice", .null)], .null, .bool true,
      .array [], .array [.array [.string "return", .array [.integer 1, .string "r"]]]]]]

def shortDocument : Document.Program where
  file := 7
  types := []
  methods :=
    [{ name := "run", signature := none, params := [], kind := .slice, path := none
       returnsRef := true, locals := [], body := some [.ret (some (.ident "r"))] }]

theorem documents_survive_json_short :
    branchDocument.file < Nat.pow 2 32 ∧
      Document.Program.ofJson? branchDocument.toJson = some branchDocument ∧
      Document.Program.rewritten? shortJson = some shortDocument.toJson ∧
      Document.Program.rewritten? shortDocument.toJson = some shortDocument.toJson := by
  have hshort : Document.Program.rewritten? shortJson = some shortDocument.toJson := rfl
  exact ⟨by decide, documents_survive_json.1 branchDocument (by decide), hshort,
    documents_survive_json.2 shortJson _ hshort⟩

end RefStability
