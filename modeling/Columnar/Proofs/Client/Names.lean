import Columnar.Proofs.Client.Probe
import Columnar.Proofs.Client.Public
import Columnar.Proofs.Literal

/-!
Names between backquotes.

A server reads a name up to the next backquote that no backslash hides. Names are written raw, so a
name with a backquote ends too early, and a name with a backslash loses it: exactly the names with
neither of them are read as they are (`map_fst_readName?_iff`). A statement is read along its fixed
texts, and all of its names are found exactly if each of them is such a name
(`readNames?_text_iff`). The question whether the database exists holds its name as a literal, which
is escaped and always read as the name (`names_read_iff`).
-/

namespace Columnar.Sql

-- `marked` says what the characters behind a backslash stand for.
variable {marked : Char → Char}

/-! ### Names -/

/-- Reads a name behind its opening backquote, and gives what follows the closing one. -/
def readName? (marked : Char → Char) : List Char → Option (List Char × List Char)
  | [] => none
  | '\\' :: [] => none
  | '\\' :: c :: rest => (readName? marked rest).map fun p => (marked c :: p.1, p.2)
  | c :: rest =>
    if c = '`' then some ([], rest) else (readName? marked rest).map fun p => (c :: p.1, p.2)

/-- A name that means itself between backquotes. -/
def IsPlain (name : String) : Prop :=
  ∀ c ∈ name.toList, c ≠ '`' ∧ c ≠ '\\'

instance : DecidablePred IsPlain := fun name =>
  inferInstanceAs (Decidable (∀ c ∈ name.toList, c ≠ '`' ∧ c ≠ '\\'))

theorem readName?_cons {c : Char} (hc : c ≠ '`' ∧ c ≠ '\\') (rest : List Char) :
    readName? marked (c :: rest) = (readName? marked rest).map fun p => (c :: p.1, p.2) := by
  rw [readName?, if_neg hc.1]
  · rintro rfl
    exact absurd rfl hc.2
  · rintro d rest rfl
    exact absurd rfl hc.2

theorem readName?_of_plain {s : List Char} (h : ∀ c ∈ s, c ≠ '`' ∧ c ≠ '\\') (rest : List Char) :
    readName? marked (s ++ '`' :: rest) = some (s, rest) := by
  induction s with
  | nil => rfl
  | cons c s ih =>
    rw [List.forall_mem_cons] at h
    rw [List.cons_append, readName?_cons h.1, ih h.2]
    rfl

/-- What is read has its first backquote in front of the one of the text, unless it is plain. -/
theorem idxOf_readName? (hmarked : marked '`' = '`') {s name rest : List Char}
    (h : readName? marked s = some (name, rest)) :
    (name ++ ['`']).idxOf '`' ≤ s.idxOf '`' ∧
      ((name ++ ['`']).idxOf '`' = s.idxOf '`' → ∀ c ∈ name, c ≠ '`' ∧ c ≠ '\\') := by
  fun_induction readName? marked s generalizing name with
  | case1 => exact nomatch h
  | case2 => exact nomatch h
  | case3 c s ih =>
    obtain ⟨⟨name, rest⟩, hread, ⟨⟩⟩ := Option.map_eq_some_iff.1 h
    have hlt : (marked c :: name ++ ['`']).idxOf '`' < ('\\' :: c :: s).idxOf '`' := by
      rw [List.idxOf_cons_ne _ (by decide)]
      by_cases hc : c = '`'
      · simp [hc, hmarked]
      · have hle := (ih hread).1
        rw [List.idxOf_cons_ne _ hc, List.cons_append, List.idxOf_cons, Bool.cond_eq_ite]
        split <;> omega
    exact ⟨hlt.le, fun heq => absurd heq hlt.ne⟩
  | case4 s =>
    obtain ⟨⟩ := h
    simp
  | case5 c s hlone hpair hc ih =>
    obtain ⟨⟨name, rest⟩, hread, ⟨⟩⟩ := Option.map_eq_some_iff.1 h
    obtain ⟨hle, hplain⟩ := ih hread
    have hbackslash : c ≠ '\\' := by
      rintro rfl
      cases s with
      | nil => exact hlone rfl rfl
      | cons d s => exact hpair d s rfl rfl
    rw [List.cons_append, List.idxOf_cons_ne _ hc, List.idxOf_cons_ne _ hc, Nat.succ_le_succ_iff,
      Nat.succ_inj, List.forall_mem_cons]
    exact ⟨hle, fun heq => ⟨⟨hc, hbackslash⟩, hplain heq⟩⟩

/-- A name is read as it is exactly if it is plain. -/
theorem map_fst_readName?_iff (hmarked : marked '`' = '`') {name rest : List Char} :
    (readName? marked (name ++ '`' :: rest)).map Prod.fst = some name ↔
      ∀ c ∈ name, c ≠ '`' ∧ c ≠ '\\' := by
  constructor
  · intro h
    obtain ⟨⟨_, rest'⟩, hread, rfl⟩ := Option.map_eq_some_iff.1 h
    refine (idxOf_readName? hmarked hread).2 ?_
    rw [List.idxOf_append, List.idxOf_append]
    simp
  · intro h
    rw [readName?_of_plain h, Option.map_some]

/-! ### Statements -/

/-- A part of a statement. -/
inductive Part where
  | fixed (text : String)
  /-- A name, which stands between backquotes. -/
  | name (text : String)

/-- The text of a part. -/
def Part.text : Part → String
  | fixed text => text
  | name text => backquoted text

/-- The text of a statement. -/
def text : List Part → String
  | [] => ""
  | part :: parts => part.text ++ text parts

/-- The names in a statement. -/
def names : List Part → List String
  | [] => []
  | .fixed _ :: parts => names parts
  | .name name :: parts => name :: names parts

/-- The fixed texts of a statement, and where its names stand. -/
def outline (parts : List Part) : List (Option String) :=
  parts.map fun
    | .fixed text => some text
    | .name _ => none

/-- Reads the names of a statement, between its fixed texts. -/
def readNames? (marked : Char → Char) : List (Option String) → List Char → Option (List String)
  | [], [] => some []
  | [], _ :: _ => none
  | some text :: outline, s => (s.dropPrefix? text.toList).bind (readNames? marked outline)
  | none :: outline, '`' :: s => (readName? marked s).bind fun p =>
      (readNames? marked outline p.2).map (String.ofList p.1 :: ·)
  | none :: _, _ => none

@[simp] theorem text_append (parts more : List Part) :
    text (parts ++ more) = text parts ++ text more := by
  induction parts with
  | nil => exact (String.empty_append).symm
  | cons part parts ih => rw [List.cons_append, text, ih, text, String.append_assoc]

@[simp] theorem names_append (parts more : List Part) :
    names (parts ++ more) = names parts ++ names more := by
  induction parts with
  | nil => rfl
  | cons part parts ih => cases part <;> simp [names, ih]

theorem toList_text_fixed (fixed : String) (parts : List Part) :
    (text (.fixed fixed :: parts)).toList = fixed.toList ++ (text parts).toList :=
  String.toList_append

theorem toList_text_name (name : String) (parts : List Part) :
    (text (.name name :: parts)).toList = '`' :: (name.toList ++ '`' :: (text parts).toList) := by
  rw [text, Part.text, String.toList_append, Placeholder.toList_backquoted, List.cons_append,
    List.append_assoc, List.singleton_append]

/-- The names of a statement are read as they are exactly if all of them are plain. -/
theorem readNames?_text_iff (hmarked : marked '`' = '`') : ∀ parts : List Part,
    readNames? marked (outline parts) (text parts).toList = some (names parts) ↔
      ∀ name ∈ names parts, IsPlain name
  | [] => by simp [outline, text, names, readNames?]
  | .fixed fixed :: parts => by
    rw [names, ← readNames?_text_iff hmarked parts, toList_text_fixed, outline, List.map_cons,
      readNames?, List.dropPrefix?_append_of_beq _ (beq_self_eq_true _), Option.bind_some, outline]
  | .name name :: parts => by
    rw [names, List.forall_mem_cons, ← readNames?_text_iff hmarked parts, toList_text_name, outline,
      List.map_cons, readNames?, ← outline]
    constructor
    · intro h
      obtain ⟨⟨read, rest⟩, hread, h⟩ := Option.bind_eq_some_iff.1 h
      obtain ⟨more, hmore, heq⟩ := Option.map_eq_some_iff.1 h
      obtain ⟨hname, rfl⟩ := List.cons.inj heq
      obtain rfl : read = name.toList := by rw [← hname, String.toList_ofList]
      have hplain : IsPlain name := (map_fst_readName?_iff hmarked).1 (by rw [hread]; rfl)
      rw [readName?_of_plain hplain] at hread
      obtain ⟨-, rfl⟩ := Prod.mk.inj (Option.some.inj hread)
      exact ⟨hplain, hmore⟩
    · rintro ⟨hplain, hmore⟩
      rw [readName?_of_plain hplain, Option.bind_some, hmore, Option.map_some,
        String.ofList_toList]

end Columnar.Sql

namespace Columnar

open Sql (Part outline readName? readNames? names text IsPlain)

/-! ### Statements about tables -/

/-- What stands behind the name in the definition of a column. -/
def Field.attributes (server : Capabilities) (f : Field) : String :=
  let codec := match f.codec, server.codecs with
    | some codec, true => " CODEC(" ++ codec ++ ")"
    | _, _ => ""
  " " ++ f.type.render server.lowCardinality ++ f.default.clause ++ codec

theorem Field.definition_eq (server : Capabilities) (f : Field) :
    f.definition server = backquoted f.name ++ f.attributes server := by
  have happend (a b c d e : String) : a ++ b ++ c ++ d ++ e = a ++ (b ++ c ++ d ++ e) := by
    simp only [String.append_assoc]
  exact happend _ _ _ _ _

/-- The definitions of columns with commas between them. -/
def columnParts (server : Capabilities) : List Field → List Part
  | [] => []
  | [f] => [.name f.name, .fixed (f.attributes server)]
  | f :: g :: fields =>
    .name f.name :: .fixed (f.attributes server) :: .fixed ", " :: columnParts server (g :: fields)

theorem text_columnParts (server : Capabilities) : ∀ fields : List Field,
    text (columnParts server fields) = ", ".intercalate (fields.map (Field.definition server))
  | [] => rfl
  | [f] => by simp [columnParts, text, Part.text, Field.definition_eq]
  | f :: g :: fields => by
    have ih := text_columnParts server (g :: fields)
    rw [List.map_cons] at ih
    rw [columnParts, List.map_cons, List.map_cons, String.intercalate_cons_cons, ← ih,
      Field.definition_eq]
    simp only [text, Part.text, String.append_assoc]

theorem names_columnParts (server : Capabilities) : ∀ fields : List Field,
    names (columnParts server fields) = fields.map Field.name
  | [] => rfl
  | [_] => rfl
  | f :: g :: fields => congrArg (f.name :: ·) (names_columnParts server (g :: fields))

namespace Schema

/-- The names in the statements that create and drop the table. -/
def tableNames (database : String) (s : Schema) : List String :=
  if s.isTemporary then [s.table] else [database, s.table]

/-- The names in a reference to the table. -/
def referenceNames (database : String) (s : Schema) : List String :=
  if s.isSystem then ["system", s.table] else s.tableNames database

def tableParts (database : String) (s : Schema) : List Part :=
  if s.isTemporary then [.name s.table] else [.name database, .fixed ".", .name s.table]

def referenceParts (database : String) (s : Schema) : List Part :=
  if s.isSystem then [.name "system", .fixed ".", .name s.table] else s.tableParts database

def dropParts (database : String) (s : Schema) : List Part :=
  .fixed ("DROP " ++ (s.kindAndName database).1 ++ " IF EXISTS ") :: s.tableParts database

def createParts (database : String) (server : Capabilities) (engine : TableEngine) (s : Schema) :
    List Part :=
  .fixed ("CREATE " ++ (s.kindAndName database).1 ++ " IF NOT EXISTS ") ::
    (s.tableParts database ++ .fixed " (" ::
      (columnParts server s.fields ++ [.fixed (") ENGINE = " ++ engine.sql)]))

variable (database : String) (s : Schema)

theorem names_tableParts : names (s.tableParts database) = s.tableNames database := by
  rw [tableParts, tableNames]
  split <;> rfl

theorem text_tableParts : text (s.tableParts database) = (s.kindAndName database).2 := by
  rw [tableParts, kindAndName]
  split <;> simp [text, Part.text, String.append_assoc]

theorem names_referenceParts : names (s.referenceParts database) = s.referenceNames database := by
  rw [referenceParts, referenceNames, ← names_tableParts]
  split <;> rfl

theorem text_referenceParts : text (s.referenceParts database) = s.reference database := by
  have hsystem : "`system`." = backquoted "system" ++ "." := rfl
  rw [referenceParts, reference, tableParts, hsystem]
  split
  · simp [text, Part.text, String.append_assoc]
  · split <;> simp [text, Part.text, String.append_assoc]

theorem names_dropParts : names (s.dropParts database) = s.tableNames database :=
  s.names_tableParts database

theorem text_dropParts {statement : String} (h : s.dropStatement database = .ok statement) :
    text (s.dropParts database) = statement := by
  obtain ⟨-, -, h⟩ := bind_eq_ok h
  obtain rfl := Except.ok.inj h
  rw [dropParts, text, text_tableParts]
  rfl

theorem names_createParts (server : Capabilities) (engine : TableEngine) :
    names (s.createParts database server engine)
      = s.tableNames database ++ s.fields.map Field.name := by
  simp [createParts, names, names_tableParts, names_columnParts]

theorem text_createParts {server : Capabilities} {engine : TableEngine} {statement : String}
    (hengine : s.creatable = .ok engine) (h : s.createStatement database server = .ok statement) :
    text (s.createParts database server engine) = statement := by
  rw [createStatement, hengine, ok_bind] at h
  have hstatement : "CREATE " ++ (s.kindAndName database).1 ++ " IF NOT EXISTS "
      ++ (s.kindAndName database).2 ++ " ("
      ++ ", ".intercalate (s.fields.map (Field.definition server)) ++ ") ENGINE = " ++ engine.sql
      = statement := Except.ok.inj h
  rw [← hstatement]
  simp [createParts, text, Part.text, text_tableParts, text_columnParts, String.append_assoc]

end Schema

/-! ### Names of databases -/

/-- The statement that creates the database. -/
def Question.creationParts (config : Config) : List Part :=
  [.fixed "CREATE DATABASE IF NOT EXISTS ", .name config.database,
    .fixed (" ENGINE = " ++ config.engine.sql)]

theorem Question.text_creationParts (config : Config) :
    text (creationParts config) = creation config := by
  unfold creation creationParts
  rw [String.append_assoc, String.append_assoc]
  simp only [text, Part.text]
  rw [String.append_empty]

namespace Action

/-- References to a table and the statements that drop and create it are read with exactly their
names if all of these are plain, and otherwise not; and the same goes for the statement that creates
the database. The question whether the database exists holds a literal that is always read as the
name. -/
theorem names_read_iff {marked : Char → Char} (hmarked : marked '`' = '`') (config : Config)
    (server : Capabilities) (s : Schema) :
    (readNames? marked (outline (s.referenceParts config.database))
        (s.reference config.database).toList = some (s.referenceNames config.database) ↔
      ∀ name ∈ s.referenceNames config.database, IsPlain name) ∧
    (∀ statement, s.dropStatement config.database = .ok statement →
      (readNames? marked (outline (s.dropParts config.database)) statement.toList
          = some (s.tableNames config.database) ↔
        ∀ name ∈ s.tableNames config.database, IsPlain name)) ∧
    (∀ engine statement, s.creatable = .ok engine →
      s.createStatement config.database server = .ok statement →
      (readNames? marked (outline (s.createParts config.database server engine)) statement.toList
          = some (s.tableNames config.database ++ s.fields.map Field.name) ↔
        ∀ name ∈ s.tableNames config.database ++ s.fields.map Field.name, IsPlain name)) ∧
    ∀ (transport : Transport) (client : Client), client.connection.config = config →
      ∃ literal, ColumnType.readQuoted? literal = some (config.database.toList, []) ∧
        (askDatabaseExists.run transport client).2.sent = client.sent ++ [request client.connection
          (.ofText ("SELECT count() FROM system.databases WHERE name = '"
            ++ String.ofList literal)) {}] ∧
        (createDatabaseUnprobed.run transport client).2.sent = client.sent ++
          [request client.connection (.ofText (Question.creation config)) {}] ∧
        (readNames? marked (outline (Question.creationParts config))
            (Question.creation config).toList = some [config.database] ↔
          IsPlain config.database) := by
  refine ⟨?_, ?_, ?_, ?_⟩
  · rw [← Schema.text_referenceParts, ← Schema.names_referenceParts]
    exact Sql.readNames?_text_iff hmarked _
  · intro statement h
    rw [← Schema.text_dropParts config.database s h, ← s.names_dropParts]
    exact Sql.readNames?_text_iff hmarked _
  · intro engine statement hengine h
    rw [← Schema.text_createParts config.database s hengine h, ← s.names_createParts]
    exact Sql.readNames?_text_iff hmarked _
  · rintro transport client rfl
    have hexistence : "SELECT count() FROM system.databases WHERE name = '" ++ String.ofList
        (Tsv.escapeChars client.connection.config.database.toList ++ ['\''])
          = Question.existence client.connection.config.database := by
      have hfront : "SELECT count() FROM system.databases WHERE name = '".toList
          = "SELECT count() FROM system.databases WHERE name = ".toList ++ ['\''] := rfl
      have hliteral : (String.ofList
          (Tsv.escapeChars client.connection.config.database.toList ++ ['\''])).toList = _ :=
        String.toList_ofList
      rw [← String.toList_inj, Question.toList_existence, String.toList_append, hfront, hliteral,
        List.append_assoc, List.singleton_append]
    refine ⟨_, Placeholder.readQuoted?_escapeChars _ [], ?_, ?_, ?_⟩
    · rw [hexistence, run_askDatabaseExists]
      rfl
    · rw [run_createDatabaseUnprobed]
      cases client.reply transport (Question.creation client.connection.config) <;> rfl
    · have hread := Sql.readNames?_text_iff hmarked
        (Question.creationParts client.connection.config)
      rw [Question.text_creationParts] at hread
      exact hread.trans List.forall_mem_singleton

/-- A table in memory with columns of small numbers. -/
def bytesTable (table : String) (columns : List String) : Schema where
  table
  fields := columns.map fun name => { name, type := .uint .w8 }
  engine := some .memory

theorem names_read_slots :
    readNames? Tsv.markedChar
        (outline ((bytesTable "slots" ["at", "to"]).createParts "shop" .fallback .memory))
        "CREATE TABLE IF NOT EXISTS `shop`.`slots` (`at` UInt8, `to` UInt8) ENGINE = Memory".toList
      = some ["shop", "slots", "at", "to"] := by
  have hmarked : Tsv.markedChar '`' = '`' := rfl
  obtain ⟨-, -, hcreate, -⟩ := names_read_iff hmarked { database := "shop" } .fallback
    (bytesTable "slots" ["at", "to"])
  refine (hcreate .memory _ rfl rfl).2 ?_
  simp [Schema.tableNames, bytesTable, IsPlain]

/-- A configuration with a backslash in the name of its database. -/
def backslashConfig : Config :=
  { database := "a\\d", url := "http://h" }

set_option maxRecDepth 20000 in
theorem validate_backslashConfig : backslashConfig.validate = .ok () := rfl

/-- A column whose name closes its backquotes is two columns, a table is read by a part of its name,
and the database that is created is not the one that is asked about. -/
theorem names_misread :
    (bytesTable "slots" ["a` UInt8, `b"]).createStatement "shop" .fallback
        = (bytesTable "slots" ["a", "b"]).createStatement "shop" .fallback ∧
      (bytesTable "a`b" []).reference "shop" = "`shop`.`a`b`" ∧
      readNames? id [none, some ".", none, some "b`"] "`shop`.`a`b`".toList = some ["shop", "a"] ∧
      backslashConfig.validate = .ok () ∧
      ColumnType.readQuoted? "a\\\\d'".toList = some ("a\\d".toList, []) ∧
      Question.existence backslashConfig.database
        = "SELECT count() FROM system.databases WHERE name = 'a\\\\d'" ∧
      readNames? id (outline (Question.creationParts backslashConfig))
        (Question.creation backslashConfig).toList = some ["ad"] :=
  ⟨rfl, rfl, by decide, validate_backslashConfig, by decide, rfl, by decide⟩

end Action

end Columnar
