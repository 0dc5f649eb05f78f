/-!
# Slashes at the end of addresses and paths

An address of `harvest-source` or a path of `harvest-heartbeat` that others are appended
to is freed of the slashes at its end first, so that one slash stands between the two.
-/

namespace Collector.Text

/-- A text without the slashes at its end. -/
def trimSlashes (s : String) : String :=
  String.ofList ((s.toList.reverse.dropWhile (· = '/')).reverse)

example : trimSlashes "/a//" = "/a" ∧ trimSlashes "//" = "" := by decide

end Collector.Text
