import CycleMiner.Toml

/-!
# Adding to the tables of a text

A text says every key once.  Headers and dotted keys pass tables on their way and make those that
are not there; what they may pass, and what they may open, depends on how a table came to be.

* `Toml.within`     goes along a path of keys and does something to the table at its end;
* `Toml.assign`     a key, dotted or not, and its value;
* `Toml.openTable`  a header in single brackets;
* `Toml.openItem`   a header in double brackets.

Nothing is added behind a value or a table in braces.  A dotted key passes tables that dotted keys
or longer headers made, but it adds only to those made by dotted keys.  A header opens a table
that is not there yet or was only passed by longer headers.
-/

namespace CycleMiner.Toml

/-- does something to the table at the end of a path; `none` if the path cannot be gone -/
def within (dotted : Bool) : List String → (Origin → Members → Option Members) →
    Origin → Members → Option Members
  | [], act, origin, ms => act origin ms
  | key :: path, act, _, ms =>
    match member? key ms with
    | none =>
      let origin := if dotted then Origin.dotted else Origin.passing
      (within dotted path act origin []).map fun inner => set key (table origin inner) ms
    | some (table origin inner) =>
      if origin = .inline ∨ (dotted ∧ origin = .header) then none
      else (within dotted path act origin inner).map fun inner => set key (table origin inner) ms
    | some (tables (inner :: before)) =>
      (within dotted path act .header inner).map fun inner => set key (tables (inner :: before)) ms
    | some _ => none

def assign (path : List String) (key : String) (v : Toml) : Origin → Members → Option Members :=
  within true path fun origin ms =>
    if !path.isEmpty ∧ origin ≠ .dotted then none
    else if (member? key ms).isSome then none
    else some (set key v ms)

def openTable (path : List String) (key : String) : Members → Option Members :=
  within false path (fun _ ms =>
    match member? key ms with
    | none => some (set key (table .header []) ms)
    | some (table .passing inner) => some (set key (table .header inner) ms)
    | some _ => none) .header

def openItem (path : List String) (key : String) : Members → Option Members :=
  within false path (fun _ ms =>
    match member? key ms with
    | none => some (set key (tables [[]]) ms)
    | some (tables before) => some (set key (tables ([] :: before)) ms)
    | some _ => none) .header

end CycleMiner.Toml
