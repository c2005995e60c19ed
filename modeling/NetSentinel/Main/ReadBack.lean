import NetSentinel.Main.Fallbacks
import NetSentinel.Main.Lines

namespace NetSentinel

open DelimitedText

section Clean

end Clean

namespace Process

variable {ω σ R : Type} [DecidableEq ω] [Fintype ω] [Nonempty ω] [Arithmetic R]
  {hash : UInt32 → Nat} {config : ProcessConfig σ R} {process : Process ω σ R}

end Process

end NetSentinel
