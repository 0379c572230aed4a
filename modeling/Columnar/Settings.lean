/-!
Named texts in ascending order of their names: settings, and the parameters of a request.

`set` and `unset` keep the order and never leave two entries with one name. Names compare by code
points, which is also the order of their UTF-8 bytes.
-/

namespace Columnar

/-- Names with their texts, in ascending order of the names. -/
abbrev Settings := List (String × String)

namespace Settings

/-- Gives a name a text, in place of the one it had. -/
def set (name text : String) : Settings → Settings
  | [] => [(name, text)]
  | (other, old) :: rest =>
    if name < other then (name, text) :: (other, old) :: rest
    else if name = other then (name, text) :: rest
    else (other, old) :: set name text rest

/-- Takes a name out. -/
def unset (name : String) (settings : Settings) : Settings :=
  settings.filter fun entry => entry.1 != name

/-- The text of a name. -/
def get? (name : String) (settings : Settings) : Option String :=
  settings.lookup name

/-- The entries of a list, the last one of each name. -/
def ofList (entries : List (String × String)) : Settings :=
  entries.foldl (fun settings entry => set entry.1 entry.2 settings) []

/-- The entries of both, with those of `upper` in place of those of `lower`. -/
def overlay (lower upper : Settings) : Settings :=
  upper.foldl (fun settings entry => set entry.1 entry.2 settings) lower

end Settings

end Columnar
