import KubectlMatch.Files.Path
import KubectlMatch.Version.Basic
/-!
# Choosing between binaries

A binary is a path and the version it answers with.  Lists of binaries keep the order in which
they were found, and every choice here respects it: the sort is stable in both directions, and
of several binaries that would do equally well the first is taken.
-/
namespace KubectlMatch

structure Binary where
  path : Path
  version : Version
deriving DecidableEq

namespace Binary

/-- The later of two versions' binaries; the first one of equals. -/
def newer (a b : Binary) : Binary := if a.version < b.version then b else a

/-- The earlier of two versions' binaries; the first one of equals. -/
def older (a b : Binary) : Binary := if b.version < a.version then b else a

def newest? : List Binary → Option Binary
  | [] => none
  | b :: bs => some (bs.foldl newer b)

def oldest? : List Binary → Option Binary
  | [] => none
  | b :: bs => some (bs.foldl older b)

/-- The binaries by version, oldest or newest first.  Equal versions keep their order. -/
def sorted (newestFirst : Bool) (bs : List Binary) : List Binary :=
  bs.mergeSort fun a b =>
    if newestFirst then decide (b.version ≤ a.version) else decide (a.version ≤ b.version)

/-- The newest release, or the newest prerelease where there is no release at all. -/
def mostRecent? (bs : List Binary) : Option Binary :=
  newest? (bs.filter fun b => !b.version.isPrerelease) <|> newest? bs

/-- The binary to use against a cluster of the requested version: of those inside the skew
window the newest that does not exceed it, or else the oldest that does. -/
def compatible? (requested : Version) (bs : List Binary) : Option Binary :=
  let inWindow := bs.filter fun b => b.version.inSkewOf requested
  newest? (inWindow.filter fun b => b.version ≤ requested) <|>
    oldest? (inWindow.filter fun b => !decide (b.version ≤ requested))

theorem sorted_perm (newestFirst : Bool) (bs : List Binary) :
    (sorted newestFirst bs).Perm bs :=
  List.mergeSort_perm bs _

end Binary

end KubectlMatch
