import Autocomplete.Snippet.Reader

namespace Autocomplete.Snippet

structure Builder where
  template : String := ""
  next : Nat := 1
  deriving DecidableEq, Repr

namespace Builder

def append (builder : Builder) (piece : List Char) : Builder :=
  { builder with template := builder.template ++ String.ofList piece }

def take (builder : Builder) : Nat × Builder :=
  (builder.next, { builder with next := builder.next + 1 })

def addText (builder : Builder) (text : String) : Builder :=
  builder.append (escapeChars text.toList)

def addPlaceholder (builder : Builder) (template : String) : Builder :=
  let (index, builder) := builder.take
  builder.append ('$' :: '\x7b' :: Number.digits index ++ ':' :: template.toList ++ ['\x7d'])

def addLiteralPlaceholder (builder : Builder) (text : String) : Builder :=
  builder.addPlaceholder (escape text)

def addTabstop (builder : Builder) : Builder :=
  let (index, builder) := builder.take
  builder.append ('$' :: Number.digits index)

def addFinalTabstop (builder : Builder) : Builder := builder.append ['$', '0']

def snippet (builder : Builder) : Except Number.DigitOverflow Snippet := ofTemplate builder.template

end Builder

end Autocomplete.Snippet
