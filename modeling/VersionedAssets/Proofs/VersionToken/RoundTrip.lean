import VersionedAssets.Proofs.Text.Words
import VersionedAssets.Proofs.VersionToken

/-! # When a token comes off again

Taking the first token off a path gives the path back that a token was put into, except in two
cases. The number of a time before 1970 has a sign, so what was put in is no token and stays; the
dashes tell. And a token of the path before an earlier dot is found first and is taken off instead.
-/

namespace VersionedAssets.VersionToken

open Text

/-! ## Dashes -/

end VersionedAssets.VersionToken
