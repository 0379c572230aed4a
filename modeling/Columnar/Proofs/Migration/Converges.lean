import Columnar.Migration.Alteration
import Columnar.Proofs.Client.Restriction
import Columnar.Proofs.Migration.Edit

/-!
Altering a table makes its columns those of the schema.

The changes are edits that the server takes one after another. In front of each field the columns
are those of the fields so far, and the live ones that none of these replaces: the column of the
field before it is there, whether it was just added or stands anywhere in the table. At the end the
live columns that are left over are dropped, and nothing is left to change
(`Alteration.statements_converge`).
-/

namespace Columnar

/-! ### Changes as edits -/

/-- The default of a column, if it has one. -/
def FieldDefault.column? : FieldDefault → Option ColumnDefault
  | unset => none
  | literal value => some ⟨.default, value.literal⟩
  | expression sql => some ⟨.default, sql⟩
  | materialized sql => some ⟨.materialized, sql⟩
  | aliased sql => some ⟨.aliased, sql⟩

/-- The column of a field on a server. -/
def Field.column (server : Capabilities) (f : Field) : ColumnDefinition where
  name := f.name
  type := f.type.render server.lowCardinality
  default := f.default.column?
  codec := if server.codecs then f.codec else none

theorem FieldDefault.text_column? (d : FieldDefault) :
    (d.column?.map ColumnDefault.text).getD "" = d.clause := by
  cases d <;> simp [column?, clause, ColumnDefault.text, DefaultKind.word]

theorem Field.text_column (server : Capabilities) (f : Field) :
    (f.column server).text = f.definition server := by
  rw [ColumnDefinition.text, Field.column, FieldDefault.text_column?, Field.definition]
  cases server.codecs <;> cases f.codec <;> rfl

theorem Field.described_column (server : Capabilities) (f : Field) : (f.column server).described
    = ⟨f.name, f.type.render server.lowCardinality, f.default.kind⟩ := by
  rw [ColumnDefinition.described, Field.column]
  cases f.default <;> rfl

namespace Alteration

/-- The edit that a change is. -/
def edit (server : Capabilities) : Alteration → Edit
  | add field after => .add (field.column server) after
  | modify field => .modify (field.column server)
  | drop column => .drop column

theorem clause_add (server : Capabilities) (f : Field) (after : Option String) :
    (add f after).clause server = "ADD COLUMN " ++ f.definition server ++ Edit.place after := by
  cases after <;> rfl

theorem clause_modify (server : Capabilities) (f : Field) :
    (modify f).clause server = "MODIFY COLUMN " ++ f.definition server := rfl

theorem clause_drop (server : Capabilities) (column : String) :
    (drop column).clause server = "DROP COLUMN " ++ backquoted column := rfl

theorem clause_edit (server : Capabilities) (change : Alteration) :
    (change.edit server).clause = change.clause server := by
  cases change with
  | add f after =>
    rw [clause_add, ← Field.text_column]
    rfl
  | modify f =>
    rw [clause_modify, ← Field.text_column]
    rfl
  | drop column => rfl

theorem statement_edit (server : Capabilities) (table : String) (change : Alteration) :
    (change.edit server).statement table = "ALTER TABLE " ++ table ++ " " ++ change.clause server :=
  congrArg ("ALTER TABLE " ++ table ++ " " ++ ·) (clause_edit server change)

/-! ### Texts of changes -/

/-- The texts that the statements for a schema and its live columns are made of have no dollar
signs. -/
structure IsPlain (server : Capabilities) (database : String) (schema : Schema)
    (live : List LiveColumn) : Prop where
  database : '$' ∉ database.toList
  table : '$' ∉ schema.table.toList
  name : ∀ f ∈ schema.fields, '$' ∉ f.name.toList
  type : ∀ f ∈ schema.fields, '$' ∉ (f.type.render server.lowCardinality).toList
  default : ∀ f ∈ schema.fields, ∀ d, f.default.column? = some d → '$' ∉ d.expression.toList
  codec : ∀ f ∈ schema.fields, ∀ codec, f.codec = some codec → '$' ∉ codec.toList
  live : ∀ c ∈ live, '$' ∉ c.name.toList

variable {server : Capabilities} {database : String} {schema : Schema} {live : List LiveColumn}

/-- A statement is filled part by part. -/
theorem fill_statement (server : Capabilities) (change : Alteration) :
    Placeholder.fill database (some schema) (change.statement server)
      = "ALTER TABLE " ++ schema.reference database ++ " "
        ++ Placeholder.fill database (some schema) (change.clause server) := by
  have hfront : change.statement server
      = "ALTER TABLE " ++ "$table" ++ (" " ++ change.clause server) := by
    rw [← String.append_assoc]
    rfl
  have hclause : (" " ++ change.clause server).toList.head? = some ' ' :=
    head?_append_of_head? rfl _
  rw [hfront, Placeholder.fill_append_blank _ hclause, Placeholder.fill_table (by decide),
    Placeholder.fill_append (by decide)]
  simp only [String.append_assoc]

theorem not_mem_backquoted {name : String} (h : '$' ∉ name.toList) :
    '$' ∉ (backquoted name).toList := by
  rw [Placeholder.toList_backquoted]
  simpa using h

theorem IsPlain.not_mem_reference (h : IsPlain server database schema live) :
    '$' ∉ (schema.reference database).toList := by
  have hdatabase := not_mem_backquoted h.database
  have htable := not_mem_backquoted h.table
  rw [Schema.reference]
  split_ifs
  · simpa [String.toList_append] using htable
  · exact htable
  · simpa [String.toList_append] using ⟨hdatabase, htable⟩

/-- A definition has no dollar sign where the texts in it have none. -/
theorem not_mem_text {d : ColumnDefinition} (hname : '$' ∉ d.name.toList)
    (htype : '$' ∉ d.type.toList)
    (hdefault : ∀ default, d.default = some default → '$' ∉ default.expression.toList)
    (hcodec : ∀ codec, d.codec = some codec → '$' ∉ codec.toList) : '$' ∉ d.text.toList := by
  have hclause : '$' ∉ ((d.default.map ColumnDefault.text).getD "").toList := by
    cases hd : d.default with
    | none => decide
    | some default =>
      have hword : '$' ∉ default.kind.word.toList := by cases default.kind <;> decide
      simpa [ColumnDefault.text, String.toList_append] using ⟨hword, hdefault default hd⟩
  have hwritten : '$' ∉ ((d.codec.map fun codec => " CODEC(" ++ codec ++ ")").getD "").toList := by
    cases hc : d.codec with
    | none => decide
    | some codec => simpa [String.toList_append] using hcodec codec hc
  simp only [ColumnDefinition.text, String.toList_append, List.mem_append, not_or]
  exact ⟨⟨⟨⟨not_mem_backquoted hname, by decide⟩, htype⟩, hclause⟩, hwritten⟩

theorem IsPlain.not_mem_definition (h : IsPlain server database schema live) {f : Field}
    (hf : f ∈ schema.fields) : '$' ∉ (f.definition server).toList := by
  rw [← Field.text_column]
  refine not_mem_text (h.name f hf) (h.type f hf) (h.default f hf) fun codec hcodec => ?_
  refine h.codec f hf codec ?_
  have hwritten : (if server.codecs = true then f.codec else none) = some codec := hcodec
  split_ifs at hwritten
  exact hwritten

theorem not_mem_clause_of_ofFields : ∀ {fields : List Field} {previous : Option String},
    (∀ f ∈ fields, '$' ∉ f.name.toList ∧ '$' ∉ (f.definition server).toList) →
    (∀ name, previous = some name → '$' ∉ name.toList) →
      ∀ change ∈ ofFields server live previous fields, '$' ∉ (change.clause server).toList
  | [], _, _, _, change, hchange => absurd hchange List.not_mem_nil
  | f :: fields, previous, hfields, hprevious, change, hchange => by
    obtain ⟨hname, hdefinition⟩ := hfields f List.mem_cons_self
    rw [ofFields, List.mem_append] at hchange
    rcases hchange with hfirst | hrest
    · rw [ofField] at hfirst
      split at hfirst
      · obtain rfl := List.mem_singleton.1 hfirst
        rw [clause_add]
        cases previous with
        | none => simpa [Edit.place, String.toList_append] using hdefinition
        | some anchor =>
          have hanchor := not_mem_backquoted (hprevious anchor rfl)
          simpa [Edit.place, String.toList_append] using ⟨hdefinition, hanchor⟩
      split at hfirst
      · exact absurd hfirst List.not_mem_nil
      · obtain rfl := List.mem_singleton.1 hfirst
        rw [clause_modify]
        simpa [String.toList_append] using hdefinition
    · refine not_mem_clause_of_ofFields (fun g hg => hfields g (List.mem_cons_of_mem f hg)) ?_
        change hrest
      rintro name heq
      exact Option.some.inj heq ▸ hname

theorem IsPlain.not_mem_clause (h : IsPlain server database schema live) {change : Alteration}
    (hchange : change ∈ all server schema live) : '$' ∉ (change.clause server).toList := by
  rw [all, List.mem_append] at hchange
  rcases hchange with hfield | hdrop
  · exact not_mem_clause_of_ofFields (fun f hf => ⟨h.name f hf, h.not_mem_definition hf⟩) (by simp)
      change hfield
  · obtain ⟨c, hc, rfl⟩ := List.mem_map.1 hdrop
    have hname := not_mem_backquoted (h.live c (List.mem_of_mem_filter hc))
    rw [clause_drop]
    simpa [String.toList_append] using hname

/-! ### The edits of all fields -/

/-- The change for a field makes its column, if the columns have the field's name as the live ones
do. -/
theorem exists_applyAll_ofField {f : Field} {previous : Option String} {columns : List LiveColumn}
    (hnodup : (columns.map LiveColumn.name).Nodup)
    (hlive : ∀ c, c.name = f.name → (c ∈ columns ↔ c ∈ live))
    (hprevious : ∀ name, previous = some name → name ∈ columns.map LiveColumn.name) :
    ∃ next, Edit.applyAll ((ofField server live previous f).map (edit server)) columns = some next ∧
      Edit.Leaves columns (f.column server).described next := by
  have hsingle : ∀ e : Edit, Edit.applyAll [e] columns = e.apply columns := fun e => by
    rw [Edit.applyAll, List.foldlM_cons]
    cases e.apply columns <;> rfl
  rw [ofField]
  cases hfind : live.find? fun column => column.name = f.name with
  | none =>
    have habsent : (f.column server).name ∉ columns.map LiveColumn.name := by
      intro hmem
      obtain ⟨c, hc, hname⟩ := List.mem_map.1 hmem
      have hmissing := List.find?_eq_none.1 hfind c ((hlive c hname).1 hc)
      exact hmissing (decide_eq_true hname)
    obtain ⟨next, happly, hleaves⟩ := Edit.exists_apply_add hnodup habsent hprevious
    exact ⟨next, (hsingle _).trans happly, hleaves⟩
  | some column =>
    have hname : column.name = f.name := by simpa using List.find?_some hfind
    have hcolumn : column ∈ columns := (hlive column hname).2 (List.mem_of_find?_eq_some hfind)
    by_cases hagrees : agrees server f column = true
    · have hsame : (f.column server).described = column := by
        rw [agrees, Bool.and_eq_true, decide_eq_true_eq, decide_eq_true_eq] at hagrees
        rw [Field.described_column, ← hname, ← hagrees.1, ← hagrees.2]
      rw [hsame]
      refine ⟨columns, ?_, Edit.leaves_self hnodup hcolumn⟩
      simp only [hagrees, if_true]
      rfl
    · have hpresent : (f.column server).name ∈ columns.map LiveColumn.name :=
        List.mem_map.2 ⟨column, hcolumn, hname⟩
      obtain ⟨next, happly, hleaves⟩ := Edit.exists_apply_modify hnodup hpresent
      simp only [hagrees]
      exact ⟨next, (hsingle _).trans happly, hleaves⟩

/-- The changes for fields make their columns, and leave those that have other names. -/
theorem exists_applyAll_ofFields : ∀ {fields : List Field} {previous : Option String}
    {columns : List LiveColumn}, (fields.map Field.name).Nodup →
    (columns.map LiveColumn.name).Nodup →
    (∀ f ∈ fields, ∀ c, c.name = f.name → (c ∈ columns ↔ c ∈ live)) →
    (∀ name, previous = some name → name ∈ columns.map LiveColumn.name) →
      ∃ next,
        Edit.applyAll ((ofFields server live previous fields).map (edit server)) columns
          = some next ∧
        (next.map LiveColumn.name).Nodup ∧
        ∀ c, c ∈ next ↔ (∃ f ∈ fields, c = (f.column server).described) ∨
          c ∈ columns ∧ ∀ f ∈ fields, f.name ≠ c.name
  | [], _, columns, _, hcolumns, _, _ => ⟨columns, rfl, hcolumns, by simp⟩
  | f :: fields, previous, columns, hnodup, hcolumns, hlive, hprevious => by
    obtain ⟨hfirst, hnodup⟩ := List.nodup_cons.1 hnodup
    have hdescribed : ((f.column server).described).name = f.name := rfl
    have hne : ∀ g ∈ fields, g.name ≠ f.name := fun g hg heq =>
      hfirst (List.mem_map.2 ⟨g, hg, heq⟩)
    obtain ⟨between, hstep, hbetween⟩ := exists_applyAll_ofField hcolumns
      (hlive f List.mem_cons_self) hprevious
    -- Behind the first field, the columns still have the names of the others as the live ones do.
    have hlive' : ∀ g ∈ fields, ∀ c, c.name = g.name → (c ∈ between ↔ c ∈ live) := by
      intro g hg c hname
      have hother : c.name ≠ f.name := hname ▸ hne g hg
      rw [hbetween.mem_iff, ← hlive g (List.mem_cons_of_mem f hg) c hname]
      constructor
      · rintro (rfl | ⟨hc, -⟩)
        · exact absurd hdescribed hother
        · exact hc
      · exact fun hc => .inr ⟨hc, hother⟩
    have hprevious' : ∀ name, some f.name = some name → name ∈ between.map LiveColumn.name := by
      rintro name heq
      obtain rfl := Option.some.inj heq
      exact List.mem_map.2 ⟨_, (hbetween.mem_iff _).2 (.inl rfl), hdescribed⟩
    obtain ⟨next, hrest, hnext, hmem⟩ :=
      exists_applyAll_ofFields hnodup hbetween.nodup hlive' hprevious'
    refine ⟨next, ?_, hnext, fun c => ?_⟩
    · rw [ofFields, List.map_append, Edit.applyAll_append hstep, hrest]
    · rw [hmem, hbetween.mem_iff]
      simp only [List.mem_cons, exists_eq_or_imp, forall_eq_or_imp]
      constructor
      · rintro (hc | ⟨rfl | ⟨hc, hname⟩, hothers⟩)
        · exact .inl (.inr hc)
        · exact .inl (.inl rfl)
        · exact .inr ⟨hc, Ne.symm hname, hothers⟩
      · rintro ((rfl | hc) | ⟨hc, hname, hothers⟩)
        · exact .inr ⟨.inl rfl, hne⟩
        · exact .inl hc
        · exact .inr ⟨.inr ⟨hc, Ne.symm hname⟩, hothers⟩

/-! ### All changes -/

/-- The names of the live columns that the schema does not have. -/
def leftNames (schema : Schema) (live : List LiveColumn) : List String :=
  (live.filter fun column => (schema.field? column.name).isNone).map LiveColumn.name

theorem map_edit_drops (server : Capabilities) (schema : Schema) (live : List LiveColumn) :
    (drops schema live).map (edit server) = (leftNames schema live).map Edit.drop := by
  rw [drops, leftNames, List.map_map, List.map_map]
  rfl

theorem mem_leftNames_iff {name : String} : name ∈ leftNames schema live ↔
    (∀ f ∈ schema.fields, f.name ≠ name) ∧ name ∈ live.map LiveColumn.name := by
  have hnone : ∀ other, (schema.field? other).isNone = true ↔ ∀ f ∈ schema.fields, f.name ≠ other
      := by
    intro other
    simp [Schema.field?]
  simp only [leftNames, List.mem_map, List.mem_filter, hnone]
  constructor
  · rintro ⟨c, ⟨hc, hfields⟩, rfl⟩
    exact ⟨hfields, c, hc, rfl⟩
  · rintro ⟨hfields, c, hc, rfl⟩
    exact ⟨c, ⟨hc, hfields⟩, rfl⟩

/-- The columns of a schema as the server describes them. -/
def columns (server : Capabilities) (schema : Schema) : List LiveColumn :=
  schema.fields.map fun f => ⟨f.name, f.type.render server.lowCardinality, f.default.kind⟩

theorem map_described (server : Capabilities) (schema : Schema) :
    schema.fields.map (fun f => (f.column server).described) = columns server schema :=
  List.map_congr_left fun f _ => f.described_column server

/-- The edits for all changes are taken, and make the columns of the schema. -/
theorem exists_applyAll_all (hfields : (schema.fields.map Field.name).Nodup)
    (hlive : (live.map LiveColumn.name).Nodup) :
    ∃ final, Edit.applyAll ((all server schema live).map (edit server)) live = some final ∧
      (final.map LiveColumn.name).Nodup ∧ final.Perm (columns server schema) := by
  have hnone : ∀ name : String, none = some name → name ∈ live.map LiveColumn.name := by simp
  obtain ⟨between, hfirst, hnodup, hmem⟩ :=
    exists_applyAll_ofFields hfields hlive (fun f _ c _ => Iff.rfl) hnone
  have hleft : leftNames schema live ⊆ between.map LiveColumn.name := by
    intro name hname
    obtain ⟨hothers, hlive⟩ := mem_leftNames_iff.1 hname
    obtain ⟨c, hc, rfl⟩ := List.mem_map.1 hlive
    exact List.mem_map.2 ⟨c, (hmem c).2 (.inr ⟨hc, hothers⟩), rfl⟩
  have hleftNodup : (leftNames schema live).Nodup :=
    hlive.sublist (List.filter_sublist.map LiveColumn.name)
  refine ⟨between.filter fun c => c.name ∉ leftNames schema live, ?_,
    hnodup.sublist (List.filter_sublist.map LiveColumn.name), ?_⟩
  · rw [all, List.map_append, Edit.applyAll_append hfirst, map_edit_drops,
      Edit.applyAll_drop hleftNodup hleft]
  · have hdescribed : (schema.fields.map fun f => (f.column server).described).Nodup := by
      refine List.Nodup.of_map LiveColumn.name ?_
      rw [List.map_map]
      exact hfields
    rw [← map_described, List.perm_ext_iff_of_nodup (hnodup.of_map.filter _) hdescribed]
    intro c
    rw [List.mem_filter, decide_eq_true_eq, hmem, List.mem_map, mem_leftNames_iff]
    constructor
    · rintro ⟨⟨f, hf, rfl⟩ | ⟨hc, hothers⟩, hkept⟩
      · exact ⟨f, hf, rfl⟩
      · exact absurd ⟨hothers, List.mem_map.2 ⟨c, hc, rfl⟩⟩ hkept
    · rintro ⟨f, hf, rfl⟩
      exact ⟨.inl ⟨f, hf, rfl⟩, fun hleft => hleft.1 f hf rfl⟩

/-- A field with a live column of its name is at most modified. -/
theorem ofField_of_mem {f : Field} {column : LiveColumn} (hnodup : (live.map LiveColumn.name).Nodup)
    (hcolumn : column ∈ live) (hname : column.name = f.name) (previous : Option String) :
    ofField server live previous f = if agrees server f column then [] else [modify f] := by
  have hfind : live.find? (fun column => column.name = f.name) = some column := by
    cases hfound : live.find? (fun column => column.name = f.name) with
    | none => exact absurd (List.find?_eq_none.1 hfound _ hcolumn) (by simp [hname])
    | some found =>
      have hfoundName : found.name = column.name := by
        simpa [hname] using List.find?_some hfound
      exact congrArg some (eq_of_name_eq hnodup (List.mem_of_find?_eq_some hfound) hcolumn
        hfoundName)
  rw [ofField, hfind]

/-- A live column that is as the field has it needs no change. -/
theorem ofField_eq_nil {f : Field} (hnodup : (live.map LiveColumn.name).Nodup)
    (hwanted : ⟨f.name, f.type.render server.lowCardinality, f.default.kind⟩ ∈ live)
    (previous : Option String) : ofField server live previous f = [] := by
  rw [ofField_of_mem hnodup hwanted rfl]
  simp [agrees]

theorem ofFields_eq_nil (hnodup : (live.map LiveColumn.name).Nodup) : ∀ {fields : List Field}
    {previous : Option String},
    (∀ f ∈ fields, ⟨f.name, f.type.render server.lowCardinality, f.default.kind⟩ ∈ live) →
      ofFields server live previous fields = []
  | [], _, _ => rfl
  | f :: fields, previous, h => by
    rw [ofFields, ofField_eq_nil hnodup (h f List.mem_cons_self),
      ofFields_eq_nil hnodup fun g hg => h g (List.mem_cons_of_mem f hg), List.append_nil]

/-- Nothing is dropped where the schema has a field for each live column. -/
theorem drops_eq_nil (h : ∀ c ∈ live, ∃ f ∈ schema.fields, f.name = c.name) :
    drops schema live = [] := by
  have hall : ∀ c ∈ live, ¬ (schema.field? c.name).isNone = true := by
    intro c hc
    obtain ⟨f, hf, hname⟩ := h c hc
    simpa [Schema.field?] using ⟨f, hf, hname⟩
  rw [drops, List.filter_eq_nil_iff.2 hall, List.map_nil]

/-- Nothing is to be changed where the columns are those of the schema. -/
theorem all_eq_nil {final : List LiveColumn} (hnodup : (final.map LiveColumn.name).Nodup)
    (hperm : final.Perm (columns server schema)) : all server schema final = [] := by
  have hwanted : ∀ f ∈ schema.fields,
      ⟨f.name, f.type.render server.lowCardinality, f.default.kind⟩ ∈ final := fun f hf =>
    hperm.mem_iff.2 (List.mem_map.2 ⟨f, hf, rfl⟩)
  have hdrops : drops schema final = [] := by
    refine drops_eq_nil fun c hc => ?_
    obtain ⟨f, hf, rfl⟩ := List.mem_map.1 (hperm.mem_iff.1 hc)
    exact ⟨f, hf, rfl⟩
  rw [all, ofFields_eq_nil hnodup hwanted, hdrops, List.append_nil]

/-- The statements are those of edits that the server takes one after another, and are sent as they
are. The columns are those of the schema then, whatever their order, and no statements are left. -/
theorem statements_converge (hfields : (schema.fields.map Field.name).Nodup)
    (hlive : (live.map LiveColumn.name).Nodup) (hplain : IsPlain server database schema live) :
    ∃ script final,
      statements server database schema live
        = script.map (Edit.statement (schema.reference database)) ∧
      (∀ s ∈ statements server database schema live, Placeholder.fill database none s = s) ∧
      Edit.applyAll script live = some final ∧ final.Perm (columns server schema) ∧
      statements server database schema final = [] := by
  have hstatement : ∀ change ∈ all server schema live,
      Placeholder.fill database (some schema) (change.statement server)
        = (change.edit server).statement (schema.reference database) := by
    intro change hchange
    have hclause := hplain.not_mem_clause hchange
    rw [fill_statement, Placeholder.fill_eq_self hclause, statement_edit]
  have hstatements : statements server database schema live
      = ((all server schema live).map (edit server)).map
          (Edit.statement (schema.reference database)) := by
    rw [statements, List.map_map]
    exact List.map_congr_left hstatement
  obtain ⟨final, hrun, hnodup, hperm⟩ := exists_applyAll_all hfields hlive
  refine ⟨_, final, hstatements, fun s hs => ?_, hrun, hperm, ?_⟩
  · obtain ⟨change, hchange, rfl⟩ := List.mem_map.1 hs
    have hclause := hplain.not_mem_clause hchange
    have hreference := hplain.not_mem_reference
    rw [hstatement change hchange, statement_edit]
    refine Placeholder.fill_eq_self ?_
    simp only [String.toList_append, List.mem_append, not_or]
    exact ⟨⟨⟨by decide, hreference⟩, by decide⟩, hclause⟩
  · rw [statements, all_eq_nil hnodup hperm, List.map_nil]

/-- A server that compresses columns. -/
def codecServer : Capabilities := .of .withCodecs .utc

/-- A table of people. -/
def peopleTable : Schema where
  table := "people"
  fields := [
    { name := "id", type := .uint .w64 },
    { name := "nick", type := .string },
    { name := "name", type := .string, default := .expression "upper(nick)", codec := some "ZSTD" }]

/-- The columns of an older table of people. -/
def olderPeople : List LiveColumn :=
  [⟨"legacy", "String", ""⟩, ⟨"id", "UInt32", ""⟩]

theorem isPlain_olderPeople : IsPlain codecServer "shop" peopleTable olderPeople where
  database := by decide
  table := by decide
  name := by decide
  type := by decide
  default := by simp [peopleTable, FieldDefault.column?]
  codec := by simp [peopleTable]
  live := by decide

theorem statements_converge_people :
    (peopleTable.fields.map Field.name).Nodup ∧ (olderPeople.map LiveColumn.name).Nodup ∧
      IsPlain codecServer "shop" peopleTable olderPeople ∧
      ∃ script final,
        statements codecServer "shop" peopleTable olderPeople
          = script.map (Edit.statement "`shop`.`people`") ∧
        Edit.applyAll script olderPeople = some final ∧
        final.Perm [⟨"id", "UInt64", ""⟩, ⟨"nick", "String", ""⟩, ⟨"name", "String", "DEFAULT"⟩] ∧
        statements codecServer "shop" peopleTable final = [] := by
  have hfields : (peopleTable.fields.map Field.name).Nodup := by decide
  have hlive : (olderPeople.map LiveColumn.name).Nodup := by decide
  obtain ⟨script, final, hscript, -, hrun, hperm, hdone⟩ :=
    statements_converge hfields hlive isPlain_olderPeople
  exact ⟨hfields, hlive, isPlain_olderPeople, script, final, hscript, hrun, hperm, hdone⟩

end Alteration

end Columnar
