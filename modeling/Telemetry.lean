import Telemetry.Datastore.Http
import Telemetry.Proofs.Condition.Literals
import Telemetry.Proofs.Condition.Negation
import Telemetry.Proofs.Datastore.Decoding
import Telemetry.Proofs.Datastore.Record
import Telemetry.Proofs.Datastore.Wire
import Telemetry.Proofs.Instant.Scaling
import Telemetry.Proofs.Point.Building
import Telemetry.Proofs.Point.Strict
import Telemetry.Proofs.Relation.Distinct
import Telemetry.Proofs.Relation.Merging
import Telemetry.Proofs.Relation.Reading
import Telemetry.Proofs.Relation.Reordering
import Telemetry.Proofs.Relation.Repeats
import Telemetry.Proofs.Relation.Stored
import Telemetry.Proofs.Series.Names
import Telemetry.Proofs.Series.TypeName
import Telemetry.Settings.Load
