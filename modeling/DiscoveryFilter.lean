import DiscoveryFilter.Element.Json
import DiscoveryFilter.Scope.Setup
import DiscoveryFilter.Scope.Run
import DiscoveryFilter.Proofs.Panel.Assembly
import DiscoveryFilter.Proofs.Scope.Roster
import DiscoveryFilter.Proofs.Scope.Loading
import DiscoveryFilter.Proofs.Scope.Layers
import DiscoveryFilter.Proofs.Scope.Narrowing
import DiscoveryFilter.Proofs.Policy.Ranges
import DiscoveryFilter.Proofs.Policy.Services
import DiscoveryFilter.Proofs.Scope.Verdict
import DiscoveryFilter.Proofs.OctetSet
import DiscoveryFilter.Proofs.Text.Separators
import DiscoveryFilter.Proofs.Text.Trim
import DiscoveryFilter.Proofs.Range.Notation
import DiscoveryFilter.Proofs.Range.Addresses
import DiscoveryFilter.Proofs.Range.Reading
import DiscoveryFilter.Proofs.RangeSet.Listing
import DiscoveryFilter.Proofs.Range.Writing
import DiscoveryFilter.Proofs.Range.Interval
import DiscoveryFilter.Proofs.RangeSet.Writing
import DiscoveryFilter.Proofs.RangeSet.Spellings
import DiscoveryFilter.Proofs.Scope.Unknown
import DiscoveryFilter.Proofs.Element.Likeness
import DiscoveryFilter.Proofs.Log.FirstFailure
import DiscoveryFilter.Proofs.Scope.Likeness
import DiscoveryFilter.Proofs.Scope.Pruning
import DiscoveryFilter.Proofs.Scope.Rearranging
import DiscoveryFilter.Proofs.Scope.Unregistered
import DiscoveryFilter.Proofs.Policy.Failure
import DiscoveryFilter.Proofs.Scope.Failure
import DiscoveryFilter.Proofs.Scope.Document
import DiscoveryFilter.Proofs.Scope.Warnings
import DiscoveryFilter.Proofs.Scope.Running
import DiscoveryFilter.Proofs.Policy.Resolution
import DiscoveryFilter.Proofs.Policy.Rewording
import DiscoveryFilter.Proofs.Panel.Widening
import DiscoveryFilter.Proofs.Panel.Dependence
import DiscoveryFilter.Proofs.Panel.Building
import DiscoveryFilter.Proofs.Panel.Editing
import DiscoveryFilter.Proofs.Policy.Blankness
import DiscoveryFilter.Proofs.Text.Standing
import DiscoveryFilter.Proofs.Range.Faults
import DiscoveryFilter.Proofs.RangeSet.Faults
import DiscoveryFilter.Proofs.OctetSet.Views
import DiscoveryFilter.Proofs.Scope.OwnNetworks
import DiscoveryFilter.Proofs.Element.Writing
