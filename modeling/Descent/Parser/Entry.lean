import Descent.Parser.Basic

/-!
The entry point: a parser on a whole text, with events about its bounds and its result around those
of the run. The parser may leave a rest unread.
-/

namespace Descent

def Outcome.report : Outcome α → List Event
  | .matched _ rest => [.succeeded rest.index]
  | .failed failure => [.failed failure]
  | .unfinished => []

def Parser.parse (parser : Parser α) (source : Text) : Run α :=
  let run := parser (.start source)
  { run with
    events := .opened source.byteSize :: run.events ++ run.outcome.report ++ [.closed] }

end Descent
