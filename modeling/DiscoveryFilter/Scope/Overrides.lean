import DiscoveryFilter.Panel

/-!
# Overrides

Acceptors that a caller puts into every scope that is loaded, in place of configured ones of the
same name: some into the default policy, some into the policy of a reporter.
-/

namespace DiscoveryFilter

open Std

/-- Acceptors for the default policy, and acceptors for reporters, each by name. -/
@[ext] structure Overrides where
  acceptors : ExtTreeMap String Acceptor
  reporters : ExtTreeMap String (ExtTreeMap String Acceptor)

namespace Overrides

def empty : Overrides :=
  ⟨∅, ∅⟩

/-- Overrides an acceptor of the default policy. -/
def withAcceptor (o : Overrides) (name : String) (acceptor : Acceptor) : Overrides :=
  { o with acceptors := o.acceptors.insert name acceptor }

/-- Overrides an acceptor of one reporter's policy. -/
def withReporterAcceptor (o : Overrides) (reporter name : String) (acceptor : Acceptor) :
    Overrides :=
  { o with
    reporters :=
      o.reporters.insert reporter ((o.reporters[reporter]?.getD ∅).insert name acceptor) }

def isEmpty (o : Overrides) : Bool :=
  o.acceptors.isEmpty && o.reporters.isEmpty

end Overrides

end DiscoveryFilter
