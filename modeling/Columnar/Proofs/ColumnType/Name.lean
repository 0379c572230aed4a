import Columnar.Proofs.Literal
import Columnar.Proofs.Result
import Columnar.Proofs.Text.Numeral

/-!
Names of types, written and read back.

Not every type has a name that can be read: the arguments of a type have bounds, and a word that
names a known type is not kept as it is. The types that are read from texts keep to them
(`isReadable_of_read`), and the name of such a type is read as the type (`read_name`). So reading
brings the names of a type down to one, which is read as itself.
-/

namespace Columnar.ColumnType

/-! ### Texts in parentheses -/

theorem toList_applied (name arguments : String) :
    (applied name arguments).toList = name.toList ++ '(' :: (arguments.toList ++ [')']) := by
  simp [applied]

/-- Arguments stand behind an opening parenthesis. -/
theorem arguments?_eq_none {s : List Char} (h : '(' ∉ s) (name : String) :
    arguments? name s = none := by
  rw [arguments?]
  split
  · split
    · next rest hrest =>
      have hmem : '(' ∈ s.drop name.length := hrest ▸ List.mem_cons_self
      exact absurd (List.mem_of_mem_drop hmem) h
    · rfl
  · rfl

theorem arguments?_applied_self (name arguments : String) :
    arguments? name (applied name arguments).toList = some arguments.toList := by
  rw [toList_applied, arguments?, if_pos (List.isPrefixOf_iff_prefix.2 (List.prefix_append _ _)),
    ← String.length_toList, List.drop_left]
  simp

/-- Arguments belong to the name in front of them, and to no beginning of it. -/
theorem arguments?_applied_of_ne {name other : String} (hname : '(' ∉ name.toList)
    (hother : '(' ∉ other.toList) (hne : name ≠ other) (arguments : String) :
    arguments? name (applied other arguments).toList = none := by
  rw [toList_applied, arguments?]
  split
  · next hprefix =>
    obtain ⟨rest, hrest⟩ := List.isPrefixOf_iff_prefix.1 hprefix
    rw [← hrest, ← String.length_toList, List.drop_left]
    rcases List.append_eq_append_iff.1 hrest with ⟨more, hmore, rfl⟩ | ⟨more, hmore, hrest⟩
    · cases more with
      | nil =>
        rw [List.append_nil] at hmore
        exact absurd (String.toList_inj.1 hmore).symm hne
      | cons c more =>
        have hc : c ≠ '(' := by
          rintro rfl
          exact hother (hmore ▸ List.mem_append_right _ List.mem_cons_self)
        split
        · next heq => exact absurd (List.cons.inj heq).1 hc
        · rfl
    · cases more with
      | nil =>
        rw [List.append_nil] at hmore
        exact absurd (String.toList_inj.1 hmore) hne
      | cons c more =>
        obtain ⟨rfl, -⟩ := List.cons.inj hrest
        exact absurd (hmore ▸ List.mem_append_right _ List.mem_cons_self) hname
  · rfl

theorem trim_applied {name : String} (h : ∀ c ∈ name.toList, Text.isBlank c = false)
    (arguments : String) :
    Text.trim (applied name arguments).toList = (applied name arguments).toList := by
  rw [toList_applied]
  cases hname : name.toList with
  | nil => exact Text.trim_eq_self_of_ends (by decide) (by decide)
  | cons c rest =>
    have hc : Text.isBlank c = false := h c (hname ▸ List.mem_cons_self)
    have hassoc : c :: rest ++ '(' :: (arguments.toList ++ [')'])
        = c :: (rest ++ '(' :: arguments.toList ++ [')']) := by simp
    rw [hassoc]
    exact Text.trim_eq_self_of_ends hc (by decide)

/-! ### Wrappers -/

theorem wrapped?_applied (wrapper : Wrapper) (inner : String) :
    wrapped? (applied wrapper.name inner).toList = some (wrapper, inner.toList) := by
  have hparen : ∀ w : Wrapper, '(' ∉ w.name.toList := by intro w; cases w <;> decide
  have hother : ∀ w : Wrapper, w.name ≠ wrapper.name →
      arguments? w.name (applied wrapper.name inner).toList = none := fun w hne =>
    arguments?_applied_of_ne (hparen w) (hparen wrapper) hne inner
  have hself := arguments?_applied_self wrapper.name inner
  rw [wrapped?]
  cases wrapper with
  | nullable => simp [hself]
  | lowCardinality => simp [hself, hother .nullable (by decide)]
  | array => simp [hself, hother .nullable (by decide), hother .lowCardinality (by decide)]

theorem wrapped?_eq_none {s : List Char} (h : ∀ w : Wrapper, arguments? w.name s = none) :
    wrapped? s = none := by
  simp [wrapped?, h]

/-- The name of a type without other types in it. -/
theorem read_of_plain {name : String} (h : wrapped? (Text.trim name.toList) = none) :
    read name = readPlain (Text.trim name.toList) := by
  rw [read, readChars]
  split
  · next hwrapped => rw [h] at hwrapped; exact absurd hwrapped (by simp)
  · rfl

theorem read_wrapped (wrapper : Wrapper) (inner : String) :
    read (applied wrapper.name inner) = (read inner).map wrapper.apply := by
  have hblank : ∀ c ∈ wrapper.name.toList, Text.isBlank c = false := by
    cases wrapper <;> exact List.all_iff_forall_prop.1 (by decide)
  have hwrapped : wrapped? (Text.trim (applied wrapper.name inner).toList)
      = some (wrapper, inner.toList) := by
    rw [trim_applied hblank, wrapped?_applied]
  rw [read, readChars]
  split
  · next found hfound =>
    rw [hwrapped] at hfound
    obtain ⟨rfl, rfl⟩ := Prod.mk.inj (Option.some.inj hfound)
    rfl
  · next hfound =>
    rw [hwrapped] at hfound
    exact absurd hfound (by simp)

/-! ### Enumerations -/

/-- The codes that an enumeration may give. -/
def IsCode (code : Int) : Prop :=
  -32768 ≤ code ∧ code ≤ 32767

theorem readEntries?_nil {s : List Char} (h : Text.trimStart s = []) :
    readEntries? s = some [] := by
  rw [readEntries?]
  split
  · rfl
  · next heq => rw [h] at heq; exact absurd heq (by simp)

theorem readEntries?_cons {s rest : List Char} {c : Char} {tail : List Char} {entry : EnumEntry}
    (h : Text.trimStart s = c :: tail) (hentry : readEntry? (c :: tail) = some (entry, rest)) :
    readEntries? s = (readEntries? rest).map (entry :: ·) := by
  rw [readEntries?]
  split
  · next heq => rw [h] at heq; exact absurd heq (by simp)
  · next c' tail' heq =>
    obtain ⟨rfl, rfl⟩ := List.cons.inj (heq.symm.trans h)
    split
    · next hnone => rw [hentry] at hnone; exact absurd hnone (by simp)
    · next entry' rest' hsome =>
      rw [hentry] at hsome
      obtain ⟨rfl, rfl⟩ := Prod.mk.inj (Option.some.inj hsome)
      rfl

/-- The entries behind the first one, each behind a comma and a blank. -/
def laterEntries (entries : List EnumEntry) : List Char :=
  entries.flatMap fun e => ',' :: ' ' :: (entryText e).toList

theorem toList_entriesText (e : EnumEntry) : ∀ entries : List EnumEntry,
    (entriesText (e :: entries)).toList = (entryText e).toList ++ laterEntries entries
  | [] => by
    rw [entriesText, List.map_singleton, String.intercalate_singleton, laterEntries,
      List.flatMap_nil, List.append_nil]
  | next :: entries => by
    have hrest : (", ".intercalate ((next :: entries).map entryText)).toList
        = (entryText next).toList ++ laterEntries entries := toList_entriesText next entries
    rw [entriesText, List.map_cons, List.map_cons, String.intercalate_cons_cons, ← List.map_cons,
      String.toList_append, String.toList_append, hrest, laterEntries, laterEntries,
      List.flatMap_cons]
    simp

/-- A code is read up to the comma behind it. -/
theorem readCode?_append {code : Int} (h : IsCode code) {rest : List Char}
    (hrest : ∀ c, rest.head? = some c → c = ',') :
    readCode? (" = ".toList ++ ((toString code).toList ++ rest)) = some (code, rest.drop 1) := by
  have hrun : ∀ c ∈ ' ' :: (toString code).toList, (c != ',') = true := by
    intro c hc
    rcases List.mem_cons.1 hc with rfl | hc
    · decide
    · rcases Text.mem_toList_toString hc with hdigit | rfl
      · exact bne_iff_ne.2 (Text.ne_of_isDigit hdigit (by decide))
      · decide
  have hend : ∀ c, rest.head? = some c → (c != ',') = false := by
    intro c hc
    rw [hrest c hc]
    decide
  obtain ⟨htake, hdrop⟩ := Text.span_append hrun hend
  have hstart : Text.trimStart (" = ".toList ++ ((toString code).toList ++ rest))
      = '=' :: (' ' :: (toString code).toList ++ rest) := rfl
  have htrim : Text.trim (' ' :: (toString code).toList) = (toString code).toList :=
    Text.trim_toString code
  unfold readCode?
  rw [hstart]
  simp only [htake, hdrop, htrim, Text.readInt?_toString h.1 h.2, Option.map_some]

theorem head?_laterEntries {entries : List EnumEntry} {c : Char}
    (h : (laterEntries entries).head? = some c) : c = ',' := by
  cases entries with
  | nil => exact absurd h (by simp [laterEntries])
  | cons e entries =>
    rw [laterEntries, List.flatMap_cons] at h
    exact (Option.some.inj h).symm

theorem readEntry?_append {e : EnumEntry} (h : IsCode e.code) (entries : List EnumEntry) :
    readEntry? ((entryText e).toList ++ laterEntries entries)
      = some (e, (laterEntries entries).drop 1) := by
  have htext : (entryText e).toList ++ laterEntries entries = '\'' :: (Tsv.escapeChars e.name.toList
      ++ '\'' :: (" = ".toList ++ ((toString e.code).toList ++ laterEntries entries))) := by
    simp only [entryText, String.toList_append, Tsv.toList_quote, List.append_assoc,
      List.cons_append, List.nil_append]
  rw [htext, readEntry?, Placeholder.readQuoted?_escapeChars, Option.bind_some]
  simp only [readCode?_append h fun _ hc => head?_laterEntries hc, Option.map_some,
    String.ofList_toList]

theorem readEntries?_append : ∀ {entries : List EnumEntry} {e : EnumEntry} {blanks : List Char},
    (∀ c ∈ blanks, Text.isBlank c = true) → IsCode e.code → (∀ f ∈ entries, IsCode f.code) →
    readEntries? (blanks ++ ((entryText e).toList ++ laterEntries entries)) = some (e :: entries)
  | entries, e, blanks, hblanks, hcode, hcodes => by
    have hentry := readEntry?_append hcode entries
    obtain ⟨tail, htail⟩ : ∃ tail, (entryText e).toList ++ laterEntries entries = '\'' :: tail := by
      rw [entryText, String.append_assoc, String.toList_append, Tsv.toList_quote]
      exact ⟨_, rfl⟩
    have hstart : Text.trimStart (blanks ++ ((entryText e).toList ++ laterEntries entries))
        = '\'' :: tail := by
      rw [htail, Text.trimStart_append_cons (by decide), Text.trimStart_of_all hblanks,
        List.nil_append]
    rw [readEntries?_cons hstart (htail ▸ hentry)]
    cases entries with
    | nil =>
      rw [readEntries?_nil rfl]
      rfl
    | cons next entries =>
      obtain ⟨hnext, hmore⟩ := List.forall_mem_cons.1 hcodes
      have hlater : (laterEntries (next :: entries)).drop 1
          = [' '] ++ ((entryText next).toList ++ laterEntries entries) := by
        simp only [laterEntries, List.flatMap_cons, List.cons_append, List.drop_one, List.tail_cons,
          List.nil_append]
      rw [hlater, readEntries?_append (List.all_eq_true.1 (by decide)) hnext hmore]
      rfl

/-- The entries of an enumeration are read back. -/
theorem readEntries?_entriesText {entries : List EnumEntry} (h : ∀ e ∈ entries, IsCode e.code) :
    readEntries? (entriesText entries).toList = some entries := by
  cases entries with
  | nil => exact readEntries?_nil rfl
  | cons e entries =>
    obtain ⟨hcode, hcodes⟩ := List.forall_mem_cons.1 h
    have hread := readEntries?_append (List.forall_mem_nil _) hcode hcodes
    rwa [List.nil_append, ← toList_entriesText] at hread

theorem isCode_of_readEntry? {s rest : List Char} {entry : EnumEntry}
    (h : readEntry? s = some (entry, rest)) : IsCode entry.code := by
  unfold readEntry? at h
  split at h
  · obtain ⟨⟨name, behind⟩, -, h⟩ := Option.bind_eq_some_iff.1 h
    obtain ⟨⟨code, after⟩, hcode, heq⟩ := Option.map_eq_some_iff.1 h
    obtain ⟨rfl, -⟩ := Prod.mk.inj heq
    unfold readCode? at hcode
    split at hcode
    · obtain ⟨found, hfound, heq⟩ := Option.map_eq_some_iff.1 hcode
      obtain ⟨rfl, -⟩ := Prod.mk.inj heq
      exact Text.bounds_of_readInt? hfound
    · exact absurd hcode (by simp)
  · exact absurd h (by simp)

theorem isCode_of_readEntries? {s : List Char} {entries : List EnumEntry}
    (h : readEntries? s = some entries) : ∀ e ∈ entries, IsCode e.code := by
  fun_induction readEntries? s generalizing entries with
  | case1 s hs =>
    obtain rfl := Option.some.inj h
    simp
  | case2 s c tail hs hentry => exact absurd h (by simp)
  | case3 s c tail hs entry rest hentry ih =>
    obtain ⟨more, hmore, rfl⟩ := Option.map_eq_some_iff.1 h
    intro e he
    rcases List.mem_cons.1 he with rfl | he
    · exact isCode_of_readEntry? hentry
    · exact ih hmore e he

/-! ### Types with arguments -/

/-- The names of the types with arguments that are no types. -/
def argumentNames : List String :=
  ["FixedString", "DateTime", "Decimal", "Enum8", "Enum16"]

theorem paren_not_mem_of_mem {name : String} (h : name ∈ argumentNames) : '(' ∉ name.toList := by
  revert name
  decide

theorem arguments?_applied {name other : String} (hname : name ∈ argumentNames)
    (hother : other ∈ argumentNames) (arguments : String) :
    arguments? name (applied other arguments).toList
      = if name = other then some arguments.toList else none := by
  split
  · next heq => rw [heq, arguments?_applied_self]
  · next hne =>
    exact arguments?_applied_of_ne (paren_not_mem_of_mem hname) (paren_not_mem_of_mem hother) hne _

theorem read_applied {name : String} (hname : name ∈ argumentNames) (arguments : String) :
    read (applied name arguments) = readPlain (applied name arguments).toList := by
  have hblank : ∀ c ∈ name.toList, Text.isBlank c = false := by
    revert name
    simp only [← List.all_iff_forall_prop]
    decide
  have hwrapper : ∀ w : Wrapper, '(' ∉ w.name.toList ∧ w.name ∉ argumentNames := by
    intro w
    cases w <;> decide
  have hwrapped : wrapped? (Text.trim (applied name arguments).toList) = none := by
    rw [trim_applied hblank]
    refine wrapped?_eq_none fun w => ?_
    obtain ⟨hparen, hother⟩ := hwrapper w
    refine arguments?_applied_of_ne hparen (paren_not_mem_of_mem hname) ?_ arguments
    rintro rfl
    exact hother hname
  rw [read_of_plain hwrapped, trim_applied hblank]

theorem read_fixedString (length : String) : read (applied "FixedString" length)
    = orFail ((Text.readNat? (Text.wordMax 64) (Text.trim length.toList)).map fixedString)
        (.parse (.fixedStringLength (applied "FixedString" length))) := by
  rw [read_applied (by decide), readPlain]
  simp (disch := decide) [arguments?_applied]

theorem read_dateTime (zone : String) : read (applied "DateTime" zone) = readZoned zone.toList := by
  rw [read_applied (by decide), readPlain]
  simp (disch := decide) [arguments?_applied]

theorem read_decimal (arguments : String) : read (applied "Decimal" arguments)
    = orFail (readDecimal? arguments.toList)
        (.parse (.decimalArguments (applied "Decimal" arguments))) := by
  rw [read_applied (by decide), readPlain]
  simp (disch := decide) [arguments?_applied]

theorem read_enum (width : EnumWidth) (entries : String) :
    read (applied (enumName width) entries) = readEnum width entries.toList := by
  cases width with
  | w8 =>
    rw [enumName, read_applied (by decide), readPlain]
    simp (disch := decide) [arguments?_applied]
  | w16 =>
    rw [enumName, read_applied (by decide), readPlain]
    simp (disch := decide) [arguments?_applied]

/-! ### Time zones -/

/-- Whether a character is a single quote. -/
def isQuote (c : Char) : Bool :=
  c = '\''

theorem withoutQuotes_withoutQuotes (s : List Char) :
    withoutQuotes (withoutQuotes s) = withoutQuotes s :=
  Text.stripped_stripped isQuote s

/-- Quotes around a text are dropped with those at its ends. -/
theorem withoutQuotes_quoted (s : List Char) :
    withoutQuotes ('\'' :: (s ++ ['\''])) = withoutQuotes s :=
  Text.stripped_append s (List.all_eq_true.1 (by decide : ['\''].all isQuote = true))

/-- A time zone is found by its name in quotes, if there are none at the ends of the name. -/
theorem readZoned_name {zone : Calendar.Zone}
    (h : withoutQuotes zone.name.toList = zone.name.toList) :
    readZoned ("'" ++ zone.name ++ "'").toList = .ok (dateTime (some zone)) := by
  have hquoted : ("'" ++ zone.name ++ "'").toList = '\'' :: (zone.name.toList ++ ['\'']) := by
    simp
  have htrim : Text.trim ('\'' :: (zone.name.toList ++ ['\'']))
      = '\'' :: (zone.name.toList ++ ['\'']) :=
    Text.trim_eq_self_of_ends (by decide) (by decide)
  rw [readZoned, hquoted, htrim, withoutQuotes_quoted, h, String.ofList_toList,
    Calendar.Zone.ofName?_name]
  rfl

/-! ### Decimals -/

theorem readDecimal?_eq {precision scale : Nat} (hprecision : precision ≤ 255)
    (hscale : scale ≤ 255) :
    readDecimal? (toString precision ++ ", " ++ toString scale).toList
      = some (decimal precision scale) := by
  have hcomma : ∀ n : Nat, ',' ∉ Nat.toDigits 10 n := fun n hmem =>
    absurd (Text.isDigit_of_mem_toDigits hmem) (by decide)
  have hsplit : (toString precision ++ ", " ++ toString scale).toList.splitOn ','
      = [(toString precision).toList, ' ' :: (toString scale).toList] := by
    have hjoin : (toString precision ++ ", " ++ toString scale).toList
        = [','].intercalate [(toString precision).toList, ' ' :: (toString scale).toList] := by
      simp [List.intercalate]
    rw [hjoin, List.splitOn_intercalate]
    · simpa using ⟨hcomma precision, hcomma scale⟩
    · simp
  have htrim : Text.trim (' ' :: (toString scale).toList) = (toString scale).toList :=
    Text.trim_toString_nat scale
  rw [readDecimal?, hsplit]
  simp only [List.map_cons, List.map_nil, htrim, Text.trim_toString_nat,
    Text.readNat?_toString hprecision, Text.readNat?_toString hscale]

/-! ### Types that are read -/

/-- The types that some text is read as: their arguments are within bounds, the names of their time
zones have no quotes at the ends, and a word of another type is not the name of a known one. -/
def IsReadable : ColumnType → Prop
  | dateTime (some zone) => withoutQuotes zone.name.toList = zone.name.toList
  | fixedString length => length ≤ Text.wordMax 64
  | decimal precision scale => precision ≤ 255 ∧ scale ≤ 255
  | enum _ entries => ∀ e ∈ entries, IsCode e.code
  | other word => read word = .ok (other word)
  | nullable inner | lowCardinality inner | array inner => IsReadable inner
  | _ => True

/-- A word without parentheses and blanks is read as the type that it names. -/
theorem read_of_word {t : ColumnType}
    (hname : ∀ c ∈ t.name.toList, c ≠ '(' ∧ Text.isBlank c = false)
    (hword : ofWord t.name = t) : read t.name = .ok t := by
  have hparen : '(' ∉ t.name.toList := fun hmem => (hname _ hmem).1 rfl
  have htrim : Text.trim t.name.toList = t.name.toList :=
    Text.trim_eq_self fun c hc => (hname c hc).2
  have hwrapped : wrapped? (Text.trim t.name.toList) = none := by
    rw [htrim]
    exact wrapped?_eq_none fun w => arguments?_eq_none hparen w.name
  rw [read_of_plain hwrapped, htrim, readPlain]
  simp only [arguments?_eq_none hparen, String.ofList_toList, hword]

/-- The name of a type that is read from texts is read as the type. -/
theorem read_name : ∀ {t : ColumnType}, IsReadable t → read t.name = .ok t
  | int width, _ => by
    cases width <;> exact read_of_word (List.all_iff_forall_prop.1 (by decide)) (by decide)
  | uint width, _ => by
    cases width <;> exact read_of_word (List.all_iff_forall_prop.1 (by decide)) (by decide)
  | float width, _ => by
    cases width <;> exact read_of_word (List.all_iff_forall_prop.1 (by decide)) (by decide)
  | bool, _ | string, _ | date, _ | dateTime none, _ | uuid, _ =>
    read_of_word (List.all_iff_forall_prop.1 (by decide)) (by decide)
  | fixedString length, h => by
    have hread := Text.readNat?_toString h
    refine (read_fixedString (toString length)).trans ?_
    rw [Text.trim_toString_nat, hread]
    rfl
  | dateTime (some zone), h => (read_dateTime ("'" ++ zone.name ++ "'")).trans (readZoned_name h)
  | decimal precision scale, h => by
    refine (read_decimal (toString precision ++ ", " ++ toString scale)).trans ?_
    rw [readDecimal?_eq h.1 h.2]
    rfl
  | enum width entries, h => by
    refine (read_enum width (entriesText entries)).trans ?_
    rw [readEnum, readEntries?_entriesText h]
    rfl
  | nullable inner, h => by
    have hinner : read inner.name = .ok inner := read_name h
    exact (read_wrapped .nullable inner.name).trans (by rw [hinner]; rfl)
  | lowCardinality inner, h => by
    have hinner : read inner.name = .ok inner := read_name h
    exact (read_wrapped .lowCardinality inner.name).trans (by rw [hinner]; rfl)
  | array inner, h => by
    have hinner : read inner.name = .ok inner := read_name h
    exact (read_wrapped .array inner.name).trans (by rw [hinner]; rfl)
  | other word, h => h

theorem isReadable_of_readZoned {argument : List Char} {t : ColumnType}
    (h : readZoned argument = .ok t) : IsReadable t := by
  obtain ⟨zone, hzone, rfl⟩ := Option.map_eq_some_iff.1 (orFail_eq_ok h)
  rw [Calendar.Zone.ofName?] at hzone
  split at hzone
  · obtain rfl := Option.some.inj hzone
    rw [IsReadable, String.toList_ofList]
    exact withoutQuotes_withoutQuotes _
  · exact absurd hzone (by simp)

theorem isReadable_of_readDecimal? {arguments : List Char} {t : ColumnType}
    (h : readDecimal? arguments = some t) : IsReadable t := by
  unfold readDecimal? at h
  split at h
  · next precision scale hparts =>
    obtain rfl := Option.some.inj h
    have hle : ∀ n, some n ∈ [some precision, some scale] → n ≤ 255 := by
      intro n hn
      rw [← hparts] at hn
      obtain ⟨part, -, hpart⟩ := List.mem_map.1 hn
      exact Text.le_of_readNat? hpart
    exact ⟨hle precision (by simp), hle scale (by simp)⟩
  · exact absurd h (by simp)

theorem isReadable_of_readEnum {width : EnumWidth} {entries : List Char} {t : ColumnType}
    (h : readEnum width entries = .ok t) : IsReadable t := by
  obtain ⟨found, hfound, rfl⟩ := Option.map_eq_some_iff.1 (orFail_eq_ok h)
  exact isCode_of_readEntries? hfound

theorem isReadable_ofWord {word : String} (h : read word = .ok (ofWord word)) :
    IsReadable (ofWord word) := by
  revert h
  unfold ofWord
  -- only a word that is not known is left to its reading
  split <;> intro h <;> trivial

/-- A name that is no wrapper is read as a readable type. -/
theorem isReadable_of_readPlain {s : List Char} {t : ColumnType} (htrim : Text.trim s = s)
    (hwrapped : wrapped? s = none) (h : readPlain s = .ok t) : IsReadable t := by
  have hread : read (String.ofList s) = readPlain s := by
    have hnone : wrapped? (Text.trim (String.ofList s).toList) = none := by
      rw [String.toList_ofList, htrim, hwrapped]
    rw [read_of_plain hnone, String.toList_ofList, htrim]
  have hplain := h
  unfold readPlain at h
  split at h
  · obtain ⟨length, hlength, rfl⟩ := Option.map_eq_some_iff.1 (orFail_eq_ok h)
    exact Text.le_of_readNat? hlength
  · exact isReadable_of_readZoned h
  · exact isReadable_of_readDecimal? (orFail_eq_ok h)
  · exact isReadable_of_readEnum h
  · exact isReadable_of_readEnum h
  · obtain rfl := Except.ok.inj h
    exact isReadable_ofWord (hread.trans hplain)

/-- A type that is read from a text is readable. -/
theorem isReadable_of_read {text : String} {t : ColumnType} (h : read text = .ok t) :
    IsReadable t := by
  rw [read] at h
  generalize text.toList = s at h
  fun_induction readChars s generalizing t with
  | case1 s wrapper inner hwrapped ih =>
    obtain ⟨item, hitem, rfl⟩ := map_eq_ok h
    have hinner := ih hitem
    cases wrapper <;> exact hinner
  | case2 s hwrapped => exact isReadable_of_readPlain (Text.trim_trim s) hwrapped h

end Columnar.ColumnType
