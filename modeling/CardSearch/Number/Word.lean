/-!
The whole numbers that fit into 64 bits.
-/
namespace CardSearch.Number

def leastWord : Int := -9223372036854775808

def wordLimit : Int := 9223372036854775808

def greatestUnsigned : Int := 18446744073709551615

end CardSearch.Number
