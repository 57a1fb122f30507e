import Groupwise.Json.Reader
import Groupwise.Json.Value
import Groupwise.Mode

/-!
# Modes, styles and groupings as JSON

In JSON texts only the exact names count.
-/

namespace Groupwise

open Json

instance : ToValue Mode := ⟨fun m => .string m.name⟩

instance : ToValue Style := ⟨fun s => .string s.name⟩

instance : ToValue Grouping := ⟨fun g => .string g.name⟩

def Mode.reader : Reader Mode := Reader.choice ofName?

def Style.reader : Reader Style := Reader.choice ofName?

def Grouping.reader : Reader Grouping := Reader.choice ofName?

end Groupwise
