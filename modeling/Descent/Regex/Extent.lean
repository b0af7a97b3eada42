import Descent.Regex.Basic

/-!
How much an expression can read, and where its matches can lie, as far as its form tells.

These are approximations on the safe side, and the form of programs hangs on them: an expression
that can be seen to read something with every match may go round a single node.
-/

namespace Descent.Regex

mutual
def readsNothing : Regex → Bool
  | .empty | .lookAt _ => true
  | .literal _ | .oneOf _ => false
  | .concat parts | .alternation parts => allReadNothing parts
  | .repetition body _ most _ => most.isSome && body.readsNothing
  | .group _ body => body.readsNothing

def allReadNothing : List Regex → Bool
  | [] => true
  | part :: rest => part.readsNothing && allReadNothing rest
end

mutual
def hasEmptySet : Regex → Bool
  | .empty | .lookAt _ | .literal _ => false
  | .oneOf set => set.isEmpty
  | .concat parts | .alternation parts => anyHasEmptySet parts
  | .repetition body _ _ _ | .group _ body => body.hasEmptySet

def anyHasEmptySet : List Regex → Bool
  | [] => false
  | part :: rest => part.hasEmptySet || anyHasEmptySet rest
end

mutual
def readsSomething : Regex → Bool
  | .empty | .lookAt _ => false
  | .literal _ | .oneOf _ => true
  | .concat parts => anyReadsSomething parts
  | .alternation branches => allReadSomething branches
  | .repetition body least _ _ => 0 < least && body.readsSomething
  | .group _ body => body.readsSomething

def anyReadsSomething : List Regex → Bool
  | [] => false
  | part :: rest => part.readsSomething || anyReadsSomething rest

def allReadSomething : List Regex → Bool
  | [] => true
  | part :: rest => part.readsSomething && allReadSomething rest
end

/-- A repetition can go round the expression through one node. An empty set of symbols is left out
of account, whatever stands around it. -/
def isSimpleRound (body : Regex) : Bool := !body.hasEmptySet && body.readsSomething

mutual
/-- Every match begins with a test of the place that is the given one. -/
def beginsWith (look : Look) : Regex → Bool
  | .empty | .literal _ | .oneOf _ => false
  | .lookAt other => other = look
  | .concat parts => partsBeginWith look parts
  | .alternation branches => allBeginWith look branches
  | .repetition body least _ _ => 0 < least && body.beginsWith look
  | .group _ body => body.beginsWith look

/-- One of the parts up to the first that may read something begins with the test. -/
def partsBeginWith (look : Look) : List Regex → Bool
  | [] => false
  | part :: rest => part.beginsWith look || part.readsNothing && partsBeginWith look rest

def allBeginWith (look : Look) : List Regex → Bool
  | [] => true
  | part :: rest => part.beginsWith look && allBeginWith look rest
end

mutual
def endsWith (look : Look) : Regex → Bool
  | .empty | .literal _ | .oneOf _ => false
  | .lookAt other => other = look
  | .concat parts => partsEndWith look parts
  | .alternation branches => allEndWith look branches
  | .repetition body least _ _ => 0 < least && body.endsWith look
  | .group _ body => body.endsWith look

def partsEndWith (look : Look) : List Regex → Bool
  | [] => false
  | part :: rest => partsEndWith look rest || allReadNothing rest && part.endsWith look

def allEndWith (look : Look) : List Regex → Bool
  | [] => true
  | part :: rest => part.endsWith look && allEndWith look rest
end

mutual
/-- How many groups an expression numbers, counting from 0: one more than the highest number. -/
def groupCount : Regex → Nat
  | .empty | .literal _ | .oneOf _ | .lookAt _ => 0
  | .concat parts | .alternation parts => groupCountOfAll parts
  | .repetition body _ _ _ => body.groupCount
  | .group number body => max (number + 1) body.groupCount

def groupCountOfAll : List Regex → Nat
  | [] => 0
  | part :: rest => max part.groupCount (groupCountOfAll rest)
end

end Descent.Regex
