/-!
# Instances of the core library

Some operations of numbers and byte arrays have a second instance in Mathlib. Where
this namespace is open those of the core library are taken, so that a definition
means the same whether Mathlib is at hand or not.
-/

namespace TilingConfig.CoreInstances

attribute [scoped instance (high)] instPowNat Zero.ofOfNat0 ByteArray.instDecidableEq

end TilingConfig.CoreInstances
