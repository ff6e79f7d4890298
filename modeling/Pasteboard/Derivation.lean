import Pasteboard.Format
import Pasteboard.Text.Spelling

/-!
# Derivations

When some members of a family are present, the absent ones can be derived from the richest present
one. `Plan.of` says which derivations to offer for a set of present formats, and `Sources` remembers
for each offered format what it is derived from.
-/

namespace Pasteboard

/-- An absent format and the present one that it can be derived from. -/
structure Derivation where
  target : Format
  source : Format
deriving DecidableEq

/-- What to add to the clipboard. -/
structure Plan where
  /-- Whether text is present but no locale. -/
  setLocale : Bool
  derivations : List Derivation
deriving DecidableEq

/-- The derivations within a family: from its first present member to all absent ones. -/
def Family.derivations (family : Family) (present : Format → Bool) : List Derivation :=
  match family.members.find? present with
  | none => []
  | some source => (family.members.filter fun target => !present target).map (⟨·, source⟩)

namespace Plan

/-- The plan for a set of present formats. -/
def of (present : Format → Bool) : Plan where
  setLocale := Family.text.members.any present && !present Format.locale
  derivations := Family.all.flatMap (·.derivations present)

/-- Whether there is nothing to add. -/
def isEmpty (plan : Plan) : Bool := !plan.setLocale && plan.derivations.isEmpty

/-- How a plan is written in diagnostics. -/
def shown (plan : Plan) : String :=
  Spelled.record "Plan"
    [("set_locale", toString plan.setLocale),
     ("derivations", Spelled.list (fun derivation => Spelled.record "Derivation"
        [("target", derivation.target.shown), ("source", derivation.source.shown)])
      plan.derivations)]

end Plan

/-- The formats that can be derived, each with what it is derived from. No format occurs twice in
front. -/
structure Sources where
  entries : List (Format × Format)
deriving DecidableEq

namespace Sources

/-- Nothing can be derived. -/
def empty : Sources := ⟨[]⟩

/-- What a format is derived from. -/
def source? (sources : Sources) (target : Format) : Option Format :=
  sources.entries.lookup target

/-- Forgets a format. -/
def remove (sources : Sources) (target : Format) : Sources :=
  ⟨sources.entries.filter fun entry => entry.1 != target⟩

/-- Makes a format derivable, in place of what it was derived from before. -/
def record (sources : Sources) (target source : Format) : Sources :=
  ⟨(target, source) :: (sources.remove target).entries⟩

/-- How many formats can be derived. -/
def size (sources : Sources) : Nat := sources.entries.length

/-- Whether no format can be derived. -/
def isEmpty (sources : Sources) : Bool := sources.entries.isEmpty

/-- The derivations in the order of the families and their members. -/
def toList (sources : Sources) : List Derivation :=
  (Family.all.flatMap Family.members).filterMap fun target =>
    (sources.source? target).map (⟨target, ·⟩)

end Sources

end Pasteboard
