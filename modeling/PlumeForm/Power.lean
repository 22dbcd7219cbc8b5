/-!
# Powers of whole numbers

A power of a natural number or an integer is the one of the core library, also in modules that see
the powers of monoids. Limits of machine words and scales of decimals are written with it.
-/

attribute [instance (1100), default_instance 20000] instPowNat
