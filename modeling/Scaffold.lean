import Scaffold.Files.Faults
import Scaffold.Main
import Scaffold.Manifest.Edit
import Scaffold.Proofs.Detect.Comparison
import Scaffold.Proofs.Detect.Evidence
import Scaffold.Proofs.Devfile.Usable
import Scaffold.Proofs.Files.Listing
import Scaffold.Proofs.Initialise.Cancelling
import Scaffold.Proofs.Initialise.Frame
import Scaffold.Proofs.Initialise.Indifference
import Scaffold.Proofs.Initialise.Naming
import Scaffold.Proofs.Initialise.Outcome
import Scaffold.Proofs.Initialise.Pipeline
import Scaffold.Proofs.Initialise.Precedence
import Scaffold.Proofs.Initialise.Preservation
import Scaffold.Proofs.Initialise.Removal
import Scaffold.Proofs.Initialise.Rollback
import Scaffold.Proofs.Initialise.Staging
import Scaffold.Proofs.Initialise.Success
import Scaffold.Proofs.Initialise.Survival
import Scaffold.Proofs.Interactive.Menus
import Scaffold.Proofs.Interactive.Naming
import Scaffold.Proofs.Manifest.Editing
import Scaffold.Proofs.Manifest.Keeping
import Scaffold.Proofs.Manifest.Rereading
import Scaffold.Proofs.Name.Sanitising
import Scaffold.Proofs.Preference
import Scaffold.Proofs.Registry.Search
import Scaffold.Proofs.Starter.Mapping
import Scaffold.Proofs.Starter.Passes
import Scaffold.Proofs.Starter.TopDirectory
import Scaffold.Proofs.Starter.WorkTree
import Scaffold.Proofs.Text.Escaped
