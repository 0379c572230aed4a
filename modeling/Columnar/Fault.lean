import Columnar.ColumnType.Basic

/-!
What can be wrong with a configuration, a value or a text, and how messages say it.

Each cause is a constructor with what it is about; the words are in one function for each kind.
-/

namespace Columnar

/-! ### Configuration -/

/-- Why a text is no URL. -/
inductive UrlFault where
  | noBase
  | emptyHost
  | port
  | ipv4
  | ipv6
  | domain
  | character
  deriving DecidableEq, Repr

/-- The words for a fault of a URL. -/
def UrlFault.message : UrlFault → String
  | noBase => "relative URL without a base"
  | emptyHost => "empty host"
  | port => "invalid port number"
  | ipv4 => "invalid IPv4 address"
  | ipv6 => "invalid IPv6 address"
  | domain => "invalid international domain name"
  | character => "invalid domain character"

/-- A fault in how the library is configured or called. -/
inductive ConfigFault where
  | blankDatabase
  | noTimeout
  | url (fault : UrlFault)
  | databaseMissing
  | noEngine (table : String)
  | emptyBatch
  | emptyPage
  | pageNumber (number : Int)
  | repeatedMigration (name package : String)
  /-- Reported from outside, in words of its own. -/
  | reported (text : String)

/-- The words for a fault of configuration. -/
def ConfigFault.message : ConfigFault → String
  | blankDatabase => "database name must not be empty"
  | noTimeout => "timeout must be at least one second"
  | url fault => "invalid database url: " ++ fault.message
  | databaseMissing =>
    "Database does not exist, and cannot be created under readonly connection"
  | noEngine table => table ++ " must define an engine"
  | emptyBatch => "batch size must be at least 1"
  | emptyPage => "page size must be at least 1"
  | pageNumber number => "Invalid page number: " ++ toString number
  | repeatedMigration name package =>
    "migration " ++ name ++ " is registered twice in " ++ package
  | reported text => text

/-! ### Values and tables -/

/-- A fault in a value, a record or the use of a table. -/
inductive ValidationFault where
  | outOfRange (n : Int) (type : ColumnType)
  | unfit (value : Value) (type : ColumnType)
  | valueCount (table : String) (expected actual : Nat)
  | noField (table field : String)
  | createSystem
  | dropSystem
  | insertProtected
  | mixedRecords (first other : String)
  /-- Reported from outside, in words of its own. -/
  | reported (text : String)

/-- The words for a fault of validation. -/
def ValidationFault.message : ValidationFault → String
  | outOfRange n type => toString n ++ " is out of range for " ++ type.name
  | unfit value type => "value " ++ value.diagnostic ++ " does not fit " ++ type.name
  | valueCount table expected actual =>
    table ++ " expects " ++ toString expected ++ " values, got " ++ toString actual
  | noField table field => table ++ " has no field " ++ field
  | createSystem => "You can't create system table"
  | dropSystem => "You can't drop system table"
  | insertProtected => "You can't insert into read only and system tables"
  | mixedRecords first other =>
    "cannot mix " ++ first ++ " and " ++ other ++ " records in one insert"
  | reported text => text

/-! ### Texts -/

/-- A fault in a text that was to be read. -/
inductive ParseFault where
  | danglingEscape (field : String)
  | arrayLiteral (text : String)
  | nestedArray (text : String)
  | fixedStringLength (type : String)
  | zone (name : String)
  | decimalArguments (type : String)
  | enumDefinition (entries : String)
  | unreadable (text : String) (type : ColumnType)
  | columnCount (expected actual : Nat) (line : String)
  | noColumnField (table column : String)
  | descriptionLine (line : String)
  | count (text : String)
  | notText (field : String) (value : Option Value)
  | notDate (field : String)
  /-- Reported from outside, in words of its own. -/
  | reported (text : String)

/-- A value that may be missing, as messages show it. -/
def optionalDiagnostic : Option Value → String
  | none => "None"
  | some value => "Some(" ++ value.diagnostic ++ ")"

/-- The words for a fault of reading. -/
def ParseFault.message : ParseFault → String
  | danglingEscape field => "dangling escape at end of field: " ++ Text.quoted field
  | arrayLiteral text => "invalid array literal: " ++ Text.quoted text
  | nestedArray text => "expected nested array, got " ++ Text.quoted text
  | fixedStringLength type => "invalid FixedString length in " ++ Text.quoted type
  | zone name => "unknown time zone " ++ Text.quoted name
  | decimalArguments type => "invalid Decimal arguments in " ++ Text.quoted type
  | enumDefinition entries => "invalid enum definition: " ++ Text.quoted entries
  | unreadable text type => "cannot parse " ++ Text.quoted text ++ " as " ++ type.name
  | columnCount expected actual line =>
    "expected " ++ toString expected ++ " columns, got " ++ toString actual ++ " in line "
      ++ Text.quoted line
  | noColumnField table column => table ++ " has no field for column " ++ column
  | descriptionLine line => "unexpected DESCRIBE line " ++ Text.quoted line
  | count text => "unexpected count " ++ Text.quoted text
  | notText field value => field ++ ": expected text, got " ++ optionalDiagnostic value
  | notDate field => field ++ ": expected a date"
  | reported text => text

end Columnar
