import FeatureService.Text.Ranges

/-!
# Element names

The names under which an encoder may be published. Such a name stands as an
element in a capabilities document, so it is a name in the sense of XML. It has
no colon, which would be read as a namespace.
-/

namespace FeatureService.ElementName

/-- The code points that may start an element name. -/
def startRanges : Text.Ranges :=
  [(0x41, 0x5A), (0x5F, 0x5F), (0x61, 0x7A), (0xC0, 0xD6), (0xD8, 0xF6), (0xF8, 0x2FF),
   (0x370, 0x37D), (0x37F, 0x1FFF), (0x200C, 0x200D), (0x2070, 0x218F), (0x2C00, 0x2FEF),
   (0x3001, 0xD7FF), (0xF900, 0xFDCF), (0xFDF0, 0xFFFD), (0x10000, 0xEFFFF)]

/-- The code points that may follow but not start an element name. -/
def furtherRanges : Text.Ranges :=
  [(0x2D, 0x2E), (0x30, 0x39), (0xB7, 0xB7), (0x300, 0x36F), (0x203F, 0x2040)]

def isStart (c : Char) : Bool :=
  startRanges.holds c

def isPart (c : Char) : Bool :=
  isStart c || furtherRanges.holds c

def isValid (text : String) : Bool :=
  match text.toList with
  | [] => false
  | first :: rest => isStart first && rest.all isPart

end FeatureService.ElementName
