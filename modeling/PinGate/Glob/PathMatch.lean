-- Matching a path against a pattern with braces. The whole path is tried and so is its last
-- part, so a pattern without a slash matches in any directory.
import PinGate.Glob.Braces
import PinGate.Glob.Pattern

namespace PinGate.Glob

/-- The last part of a path that is neither empty nor a single point; empty when there is none. -/
def baseName (path : Text) : Text :=
  (((path.splitOn '/').filter fun part => !part.isEmpty && part != ['.']).getLast?).getD []

/-- Whether a path, or its last part, is one that a pattern stands for. -/
def matchesPath (pattern path : Text) : Bool :=
  (expand pattern).any fun p =>
    (Pattern.parse p).admits path || (Pattern.parse p).admits (baseName path)

end PinGate.Glob
