import Columnar.Proofs.Client.Composed

/-!
What callers can run with a client.

A caller runs public actions one after another, each chosen by what the ones before have given, and
also after errors (`Public`). Every public action is made of parts of the client
(`Public.composed`), and so is a path of steps (`Public.walks`).
-/

namespace Columnar.Action

variable {caller other : Caller}

/-- What the caller can run: the operations of a client, and programs made of them. -/
inductive Public [Clocks] (caller : Caller) : {α : Type} → Action α → Prop
  | pure {α : Type} (a : α) : Public caller (pure a : Action α)
  | throw {α : Type} (e : ClientError) : Public caller (throw e : Action α)
  | bind {α β : Type} {action : Action α} {next : α → Action β} (h : Public caller action)
      (hnext : ∀ a, Public caller (next a)) : Public caller (action >>= next)
  | tryCatch {α : Type} {action : Action α} {handler : ClientError → Action α}
      (h : Public caller action) (hhandler : ∀ e, Public caller (handler e)) :
      Public caller (tryCatch action handler)
  | connection : Public caller connection
  | changeSetting {name : String} (text : Option String) (h : caller.changes name) :
      Public caller (changeSetting name text)
  | setReadOnly {isReadOnly : Bool} (h : caller.asks isReadOnly) :
      Public caller (setReadOnly isReadOnly)
  | capabilities : Public caller capabilities
  | init : Public caller init
  | send {body : Body} (options : Options) (h : caller.sends body) :
      Public caller (send body options)
  | raw {statement : String} (options : Options)
      (h : caller.sends (.ofText (Placeholder.fill caller.database none statement))) :
      Public caller (raw statement options)
  | createDatabase : Public caller createDatabase
  | dropDatabase : Public caller dropDatabase
  | createTable (schema : Schema) : Public caller (createTable schema)
  | dropTable (schema : Schema) : Public caller (dropTable schema)
  | tableExists (schema : Schema) : Public caller (tableExists schema)
  | describe (table : String) (isSystem : Bool) : Public caller (describe table isSystem)
  | count (schema : Schema) (condition : Option Condition) :
      Public caller (count schema condition)
  | select (query : String) (schema : Option Schema) (options : Options) :
      Public caller (select query schema options)
  | paginate (schema : Schema) (orderBy : String) (number : Int) (size : Nat)
      (condition : Option Condition) (options : Options) :
      Public caller (paginate schema orderBy number size condition options)
  | insertWith (records : List Row) (size : Nat) (options : Options) :
      Public caller (insertWith records size options)
  | alterTable (schema : Schema) : Public caller (alterTable schema)
  | appliedMigrations (package : String) : Public caller (appliedMigrations package)
  | migrate {p : Package} (today : Calendar.Date) (bound : Nat)
      (h : ∀ m ∈ p.migrations, ∀ o ∈ m.operations, Public caller o.apply) :
      Public caller (migrate p today bound)

/-- What one caller does of its own accord, the other may do. -/
structure Within (caller other : Caller) : Prop where
  sends {body : Body} (h : caller.sends body) : other.sends body
  fills {statement : String}
    (h : caller.sends (.ofText (Placeholder.fill caller.database none statement))) :
    other.sends (.ofText (Placeholder.fill other.database none statement))
  changes {name : String} (h : caller.changes name) : other.changes name
  asks {isReadOnly : Bool} (h : caller.asks isReadOnly) : other.asks isReadOnly

theorem Within.refl (caller : Caller) : Within caller caller :=
  ⟨id, id, id, id⟩

/-- A caller of any database may do everything. -/
theorem Within.free (caller : Caller) (database : String) : Within caller { database } :=
  ⟨fun _ => trivial, fun _ => trivial, fun _ => trivial, fun _ => trivial⟩

/-- Whatever a caller runs is made of parts of the client. -/
theorem Public.composed [Clocks] {α : Type} {action : Action α} (h : Public caller action)
    (hwithin : Within caller other) : Composed other false action := by
  induction h with
  | pure a => exact .pure a
  | throw e => exact .throw e
  | bind _ _ ih ihnext => exact ih.bind ihnext
  | tryCatch _ _ ih ihhandler => exact ih.tryCatch ihhandler
  | connection =>
    rw [← bind_pure Action.connection]
    exact .connection_bind fun c _ => .pure c
  | changeSetting text h => exact .changeSetting text (hwithin.changes h)
  | setReadOnly h => exact .setReadOnly (hwithin.asks h)
  | capabilities => exact .capabilities
  | init => exact composed_init
  | send options h => exact composed_init_bind (.dispatch options fun _ => hwithin.sends h)
  | raw options h => exact composed_raw options fun _ => hwithin.fills h
  | createDatabase => exact composed_init_bind .createDatabaseUnprobed
  | dropDatabase => exact dropDatabase_eq ▸ composed_init_bind .dropDatabaseUnprobed
  | createTable schema => exact composed_createTable schema
  | dropTable schema => exact composed_dropTable schema
  | tableExists schema => exact composed_tableExists schema
  | describe table isSystem => exact composed_describe table isSystem
  | count schema condition => exact composed_count schema condition
  | select query schema options => exact composed_select query schema options
  | paginate schema orderBy number size condition options =>
    exact composed_paginate schema orderBy number size condition options
  | insertWith records size options => exact composed_insertWith records size options
  | alterTable schema => exact composed_alterTable schema
  | appliedMigrations package => exact composed_appliedMigrations package
  | migrate today bound _ ih => exact composed_migrate today bound ih

/-- Whatever a caller runs is a path of steps. -/
theorem Public.walks [Clocks] {α : Type} {action : Action α} (h : Public caller action) :
    Walks caller caller.Uses action :=
  (h.composed (.refl caller)).walks

end Columnar.Action
