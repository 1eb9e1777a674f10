import AdvancedSignature.Declaration.Run
import AdvancedSignature.QualifyingProperties
import AdvancedSignature.TimeStamp.Stamping

/-!
# Signing sessions

All that an application holds while it makes a signature: the declarations, the collector, the
qualifying properties once they are assembled, and how the time-stamps among them stand.  New
properties take their identities from one supply.
-/

namespace AdvancedSignature

/-- What an application holds while it makes a signature. -/
structure Session where
  /-- The next unused identity. -/
  nextInstance : Nat := 0
  declarations : Declarations := {}
  collector : Collector := {}
  qualifying : QualifyingProperties := {}
  resolutions : Resolutions := {}

namespace Session

/-- An unused identity. -/
def fresh (s : Session) : InstanceId × Session :=
  (⟨s.nextInstance⟩, { s with nextInstance := s.nextInstance + 1 })

/-- Carries out a declaration. -/
def perform (s : Session) (a : Action) : Outcome × Session :=
  let (outcome, declarations) := s.declarations.perform a
  (outcome, { s with declarations })

/-- Collects a signature-level property. -/
def collect (s : Session) (r : CollectorRequest) : Except Error Session :=
  (s.collector.collect s.fresh.1 r).map fun collector => { s.fresh.2 with collector }

/-- Puts the collector that the requests fill in the place of the present one. -/
def collectAnew (s : Session) (requests : List CollectorRequest) : Except Error Session :=
  (Collector.collectEach {} s.nextInstance requests).map fun collector =>
    { s with nextInstance := s.nextInstance + requests.length, collector }

/-- Assembles the qualifying properties for a collection of data objects.  What was collected is
used up, whether or not they can be assembled. -/
def assemble (s : Session) (objects : SignedDataObjects) (certificate : SigningCertificate)
    (policy : Option SignaturePolicy) : Except Error Unit × Session :=
  let (id, t) := { s with collector := {} }.fresh
  match QualifyingProperties.assemble s.collector objects s.declarations.table id certificate
    policy with
  | .ok qualifying => (.ok (), { t with qualifying })
  | .error e => (.error e, t)

/-- Adds a property to the container of its tag. -/
def add (s : Session) (q : QualifyingProperty) : Except Error Session :=
  (s.qualifying.add q).map fun qualifying => { s with qualifying }

/-- The time-stamp of a property as it stands. -/
def timeStamp? (s : Session) (q : QualifyingProperty) : Option TimeStamp :=
  s.resolutions.timeStamp? q

/-- Records how the time-stamp of a property stands. -/
def record (s : Session) (q : QualifyingProperty) (ts : TimeStamp) : Session :=
  { s with resolutions := s.resolutions.set q ts }

/-- The time-stamps that are still to be resolved. -/
def pendingTimeStamps (s : Session) : List QualifyingProperty :=
  s.qualifying.pendingTimeStamps s.resolutions

end Session

end AdvancedSignature
