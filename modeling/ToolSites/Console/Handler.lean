import ToolSites.Error
import ToolSites.Literal.Check
import ToolSites.Text.Blank
/-!
# Handlers

A tag may name what handles the text in it, and give a value to it: the name of an
action with its arguments in brackets, or the arguments alone. The arguments must
write a value.
-/

namespace ToolSites.Console.Handler

open Text (isWord trimmed)

/-- The arguments in the text of a handler. Where there is nothing but the name of
an action they are empty; where a name and brackets do not make up the text, it is
all of it. -/
def arguments (cs : List Char) : List Char :=
  let whole := trimmed cs
  let rest := whole.dropWhile fun c => isWord c || c = '.'
  if rest.isEmpty then ['(', ')']
  else if rest.head? = some '(' && rest.getLast? = some ')' && !rest.contains '\n' then rest
  else whole

/-- Meets the fault in the text of a handler. Nothing is asked of an empty one. -/
def check [Host] (cs : List Char) : Except MarkupFault Unit :=
  if cs.isEmpty then .ok ()
  else
    (Literal.check (arguments cs)).mapError fun fault =>
      .handler (.ofList (arguments cs)) (.ofList cs) fault

end ToolSites.Console.Handler
