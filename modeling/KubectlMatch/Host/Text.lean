import KubectlMatch.Text.Blank
import KubectlMatch.Text.Quoted
/-!
# Text of the host

File names, arguments and the values of environment variables are byte strings.  Most are
UTF-8 and none has to be; `text?` reads those that are, `quoted` and `shown` display any.
-/
namespace KubectlMatch

/-- A byte string as the operating system hands it over. -/
structure HostText where
  bytes : List UInt8
deriving DecidableEq

namespace HostText

def ofString (s : String) : HostText := ⟨Text.utf8 s⟩

instance : Coe String HostText := ⟨ofString⟩

instance : Append HostText := ⟨fun a b => ⟨a.bytes ++ b.bytes⟩⟩

instance : Inhabited HostText := ⟨⟨[]⟩⟩

def isEmpty (t : HostText) : Bool := t.bytes.isEmpty

def text? (t : HostText) : Option String := Text.utf8? t.bytes

/-- The bytes between quotation marks, with everything escaped that would not show. -/
def quoted (t : HostText) : String := Text.quoteBytes t.bytes

/-- The text with a replacement character where the bytes are none. -/
def shown (t : HostText) : String := String.ofList (Text.lossy t.bytes)

/-- The fields between colons, as in a search path.  Empty ones are kept. -/
def fields (t : HostText) : List HostText := (t.bytes.splitOn ':'.toUInt8).map HostText.mk

@[simp] theorem text?_ofString (s : String) : (ofString s).text? = some s := Text.utf8?_utf8 s

theorem ofString_of_text? {t : HostText} {s : String} (h : t.text? = some s) : ofString s = t := by
  cases t with
  | mk bytes => exact congrArg mk (Text.utf8_of_utf8? h)

theorem ofString_injective {s t : String} (h : ofString s = ofString t) : s = t :=
  Text.utf8_injective (congrArg bytes h)

end HostText

abbrev Environment := List (HostText × HostText)

namespace Environment

/-- The value of a variable; of two entries with one name the first counts. -/
def get? (env : Environment) (name : String) : Option HostText :=
  (env.find? fun entry => entry.1 = HostText.ofString name).map Prod.snd

/-- The value of a variable that is set and not empty. -/
def getNonempty? (env : Environment) (name : String) : Option HostText :=
  (env.get? name).filter fun value => !value.isEmpty

end Environment

end KubectlMatch
