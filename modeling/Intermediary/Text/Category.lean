import Intermediary.Text.RangeTable

/-!
# General categories

The table of the general category of every assigned character, by its code of
two letters.  Categories with one initial form a group, named by that initial.
-/

namespace Intermediary

namespace Text

/-- The general categories of the assigned characters. -/
def categoryTable : RangeMap String := RangeMap.ofText id
   "0-1f>Cc 20>Zs 21-23>Po 24>Sc 25-27>Po 28>Ps 29>Pe 2a>Po 2b>Sm 2c>Po 2d>Pd 2e-2f>Po 30-39>Nd
    3a-3b>Po 3c-3e>Sm 3f-40>Po 41-5a>Lu 5b>Ps 5c>Po 5d>Pe 5e>Sk 5f>Pc 60>Sk 61-7a>Ll 7b>Ps 7c>Sm
    7d>Pe 7e>Sm 7f-9f>Cc a0>Zs a1>Po a2-a5>Sc a6>So a7>Po a8>Sk a9>So aa>Lo ab>Pi ac>Sm ad>Cf
    ae>So af>Sk b0>So b1>Sm b2-b3>No b4>Sk b5>Ll b6-b7>Po b8>Sk b9>No ba>Lo bb>Pf bc-be>No bf>Po
    c0-d6>Lu d7>Sm d8-de>Lu df-f6>Ll f7>Sm f8-ff>Ll 100>Lu 101>Ll 102>Lu 103>Ll 104>Lu 105>Ll
    106>Lu 107>Ll 108>Lu 109>Ll 10a>Lu 10b>Ll 10c>Lu 10d>Ll 10e>Lu 10f>Ll 110>Lu 111>Ll 112>Lu
    113>Ll 114>Lu 115>Ll 116>Lu 117>Ll 118>Lu 119>Ll 11a>Lu 11b>Ll 11c>Lu 11d>Ll 11e>Lu 11f>Ll
    120>Lu 121>Ll 122>Lu 123>Ll 124>Lu 125>Ll 126>Lu 127>Ll 128>Lu 129>Ll 12a>Lu 12b>Ll 12c>Lu
    12d>Ll 12e>Lu 12f>Ll 130>Lu 131>Ll 132>Lu 133>Ll 134>Lu 135>Ll 136>Lu 137-138>Ll 139>Lu
    13a>Ll 13b>Lu 13c>Ll 13d>Lu 13e>Ll 13f>Lu 140>Ll 141>Lu 142>Ll 143>Lu 144>Ll 145>Lu 146>Ll
    147>Lu 148-149>Ll 14a>Lu 14b>Ll 14c>Lu 14d>Ll 14e>Lu 14f>Ll 150>Lu 151>Ll 152>Lu 153>Ll
    154>Lu 155>Ll 156>Lu 157>Ll 158>Lu 159>Ll 15a>Lu 15b>Ll 15c>Lu 15d>Ll 15e>Lu 15f>Ll 160>Lu
    161>Ll 162>Lu 163>Ll 164>Lu 165>Ll 166>Lu 167>Ll 168>Lu 169>Ll 16a>Lu 16b>Ll 16c>Lu 16d>Ll
    16e>Lu 16f>Ll 170>Lu 171>Ll 172>Lu 173>Ll 174>Lu 175>Ll 176>Lu 177>Ll 178-179>Lu 17a>Ll
    17b>Lu 17c>Ll 17d>Lu 17e-180>Ll 181-182>Lu 183>Ll 184>Lu 185>Ll 186-187>Lu 188>Ll 189-18b>Lu
    18c-18d>Ll 18e-191>Lu 192>Ll 193-194>Lu 195>Ll 196-198>Lu 199-19b>Ll 19c-19d>Lu 19e>Ll
    19f-1a0>Lu 1a1>Ll 1a2>Lu 1a3>Ll 1a4>Lu 1a5>Ll 1a6-1a7>Lu 1a8>Ll 1a9>Lu 1aa-1ab>Ll 1ac>Lu
    1ad>Ll 1ae-1af>Lu 1b0>Ll 1b1-1b3>Lu 1b4>Ll 1b5>Lu 1b6>Ll 1b7-1b8>Lu 1b9-1ba>Ll 1bb>Lo 1bc>Lu
    1bd-1bf>Ll 1c0-1c3>Lo 1c4>Lu 1c5>Lt 1c6>Ll 1c7>Lu 1c8>Lt 1c9>Ll 1ca>Lu 1cb>Lt 1cc>Ll 1cd>Lu
    1ce>Ll 1cf>Lu 1d0>Ll 1d1>Lu 1d2>Ll 1d3>Lu 1d4>Ll 1d5>Lu 1d6>Ll 1d7>Lu 1d8>Ll 1d9>Lu 1da>Ll
    1db>Lu 1dc-1dd>Ll 1de>Lu 1df>Ll 1e0>Lu 1e1>Ll 1e2>Lu 1e3>Ll 1e4>Lu 1e5>Ll 1e6>Lu 1e7>Ll
    1e8>Lu 1e9>Ll 1ea>Lu 1eb>Ll 1ec>Lu 1ed>Ll 1ee>Lu 1ef-1f0>Ll 1f1>Lu 1f2>Lt 1f3>Ll 1f4>Lu
    1f5>Ll 1f6-1f8>Lu 1f9>Ll 1fa>Lu 1fb>Ll 1fc>Lu 1fd>Ll 1fe>Lu 1ff>Ll 200>Lu 201>Ll 202>Lu
    203>Ll 204>Lu 205>Ll 206>Lu 207>Ll 208>Lu 209>Ll 20a>Lu 20b>Ll 20c>Lu 20d>Ll 20e>Lu 20f>Ll
    210>Lu 211>Ll 212>Lu 213>Ll 214>Lu 215>Ll 216>Lu 217>Ll 218>Lu 219>Ll 21a>Lu 21b>Ll 21c>Lu
    21d>Ll 21e>Lu 21f>Ll 220>Lu 221>Ll 222>Lu 223>Ll 224>Lu 225>Ll 226>Lu 227>Ll 228>Lu 229>Ll
    22a>Lu 22b>Ll 22c>Lu 22d>Ll 22e>Lu 22f>Ll 230>Lu 231>Ll 232>Lu 233-239>Ll 23a-23b>Lu 23c>Ll
    23d-23e>Lu 23f-240>Ll 241>Lu 242>Ll 243-246>Lu 247>Ll 248>Lu 249>Ll 24a>Lu 24b>Ll 24c>Lu
    24d>Ll 24e>Lu 24f-293>Ll 294-295>Lo 296-2af>Ll 2b0-2c1>Lm 2c2-2c5>Sk 2c6-2d1>Lm 2d2-2df>Sk
    2e0-2e4>Lm 2e5-2eb>Sk 2ec>Lm 2ed>Sk 2ee>Lm 2ef-2ff>Sk 300-36f>Mn 370>Lu 371>Ll 372>Lu 373>Ll
    374>Lm 375>Sk 376>Lu 377>Ll 37a>Lm 37b-37d>Ll 37e>Po 37f>Lu 384-385>Sk 386>Lu 387>Po
    388-38a>Lu 38c>Lu 38e-38f>Lu 390>Ll 391-3a1>Lu 3a3-3ab>Lu 3ac-3ce>Ll 3cf>Lu 3d0-3d1>Ll
    3d2-3d4>Lu 3d5-3d7>Ll 3d8>Lu 3d9>Ll 3da>Lu 3db>Ll 3dc>Lu 3dd>Ll 3de>Lu 3df>Ll 3e0>Lu 3e1>Ll
    3e2>Lu 3e3>Ll 3e4>Lu 3e5>Ll 3e6>Lu 3e7>Ll 3e8>Lu 3e9>Ll 3ea>Lu 3eb>Ll 3ec>Lu 3ed>Ll 3ee>Lu
    3ef-3f3>Ll 3f4>Lu 3f5>Ll 3f6>Sm 3f7>Lu 3f8>Ll 3f9-3fa>Lu 3fb-3fc>Ll 3fd-42f>Lu 430-45f>Ll
    460>Lu 461>Ll 462>Lu 463>Ll 464>Lu 465>Ll 466>Lu 467>Ll 468>Lu 469>Ll 46a>Lu 46b>Ll 46c>Lu
    46d>Ll 46e>Lu 46f>Ll 470>Lu 471>Ll 472>Lu 473>Ll 474>Lu 475>Ll 476>Lu 477>Ll 478>Lu 479>Ll
    47a>Lu 47b>Ll 47c>Lu 47d>Ll 47e>Lu 47f>Ll 480>Lu 481>Ll 482>So 483-487>Mn 488-489>Me 48a>Lu
    48b>Ll 48c>Lu 48d>Ll 48e>Lu 48f>Ll 490>Lu 491>Ll 492>Lu 493>Ll 494>Lu 495>Ll 496>Lu 497>Ll
    498>Lu 499>Ll 49a>Lu 49b>Ll 49c>Lu 49d>Ll 49e>Lu 49f>Ll 4a0>Lu 4a1>Ll 4a2>Lu 4a3>Ll 4a4>Lu
    4a5>Ll 4a6>Lu 4a7>Ll 4a8>Lu 4a9>Ll 4aa>Lu 4ab>Ll 4ac>Lu 4ad>Ll 4ae>Lu 4af>Ll 4b0>Lu 4b1>Ll
    4b2>Lu 4b3>Ll 4b4>Lu 4b5>Ll 4b6>Lu 4b7>Ll 4b8>Lu 4b9>Ll 4ba>Lu 4bb>Ll 4bc>Lu 4bd>Ll 4be>Lu
    4bf>Ll 4c0-4c1>Lu 4c2>Ll 4c3>Lu 4c4>Ll 4c5>Lu 4c6>Ll 4c7>Lu 4c8>Ll 4c9>Lu 4ca>Ll 4cb>Lu
    4cc>Ll 4cd>Lu 4ce-4cf>Ll 4d0>Lu 4d1>Ll 4d2>Lu 4d3>Ll 4d4>Lu 4d5>Ll 4d6>Lu 4d7>Ll 4d8>Lu
    4d9>Ll 4da>Lu 4db>Ll 4dc>Lu 4dd>Ll 4de>Lu 4df>Ll 4e0>Lu 4e1>Ll 4e2>Lu 4e3>Ll 4e4>Lu 4e5>Ll
    4e6>Lu 4e7>Ll 4e8>Lu 4e9>Ll 4ea>Lu 4eb>Ll 4ec>Lu 4ed>Ll 4ee>Lu 4ef>Ll 4f0>Lu 4f1>Ll 4f2>Lu
    4f3>Ll 4f4>Lu 4f5>Ll 4f6>Lu 4f7>Ll 4f8>Lu 4f9>Ll 4fa>Lu 4fb>Ll 4fc>Lu 4fd>Ll 4fe>Lu 4ff>Ll
    500>Lu 501>Ll 502>Lu 503>Ll 504>Lu 505>Ll 506>Lu 507>Ll 508>Lu 509>Ll 50a>Lu 50b>Ll 50c>Lu
    50d>Ll 50e>Lu 50f>Ll 510>Lu 511>Ll 512>Lu 513>Ll 514>Lu 515>Ll 516>Lu 517>Ll 518>Lu 519>Ll
    51a>Lu 51b>Ll 51c>Lu 51d>Ll 51e>Lu 51f>Ll 520>Lu 521>Ll 522>Lu 523>Ll 524>Lu 525>Ll 526>Lu
    527>Ll 528>Lu 529>Ll 52a>Lu 52b>Ll 52c>Lu 52d>Ll 52e>Lu 52f>Ll 531-556>Lu 559>Lm 55a-55f>Po
    560-588>Ll 589>Po 58a>Pd 58d-58e>So 58f>Sc 591-5bd>Mn 5be>Pd 5bf>Mn 5c0>Po 5c1-5c2>Mn 5c3>Po
    5c4-5c5>Mn 5c6>Po 5c7>Mn 5d0-5ea>Lo 5ef-5f2>Lo 5f3-5f4>Po 600-605>Cf 606-608>Sm 609-60a>Po
    60b>Sc 60c-60d>Po 60e-60f>So 610-61a>Mn 61b>Po 61c>Cf 61d-61f>Po 620-63f>Lo 640>Lm
    641-64a>Lo 64b-65f>Mn 660-669>Nd 66a-66d>Po 66e-66f>Lo 670>Mn 671-6d3>Lo 6d4>Po 6d5>Lo
    6d6-6dc>Mn 6dd>Cf 6de>So 6df-6e4>Mn 6e5-6e6>Lm 6e7-6e8>Mn 6e9>So 6ea-6ed>Mn 6ee-6ef>Lo
    6f0-6f9>Nd 6fa-6fc>Lo 6fd-6fe>So 6ff>Lo 700-70d>Po 70f>Cf 710>Lo 711>Mn 712-72f>Lo
    730-74a>Mn 74d-7a5>Lo 7a6-7b0>Mn 7b1>Lo 7c0-7c9>Nd 7ca-7ea>Lo 7eb-7f3>Mn 7f4-7f5>Lm 7f6>So
    7f7-7f9>Po 7fa>Lm 7fd>Mn 7fe-7ff>Sc 800-815>Lo 816-819>Mn 81a>Lm 81b-823>Mn 824>Lm
    825-827>Mn 828>Lm 829-82d>Mn 830-83e>Po 840-858>Lo 859-85b>Mn 85e>Po 860-86a>Lo 870-887>Lo
    888>Sk 889-88e>Lo 890-891>Cf 897-89f>Mn 8a0-8c8>Lo 8c9>Lm 8ca-8e1>Mn 8e2>Cf 8e3-902>Mn
    903>Mc 904-939>Lo 93a>Mn 93b>Mc 93c>Mn 93d>Lo 93e-940>Mc 941-948>Mn 949-94c>Mc 94d>Mn
    94e-94f>Mc 950>Lo 951-957>Mn 958-961>Lo 962-963>Mn 964-965>Po 966-96f>Nd 970>Po 971>Lm
    972-980>Lo 981>Mn 982-983>Mc 985-98c>Lo 98f-990>Lo 993-9a8>Lo 9aa-9b0>Lo 9b2>Lo 9b6-9b9>Lo
    9bc>Mn 9bd>Lo 9be-9c0>Mc 9c1-9c4>Mn 9c7-9c8>Mc 9cb-9cc>Mc 9cd>Mn 9ce>Lo 9d7>Mc 9dc-9dd>Lo
    9df-9e1>Lo 9e2-9e3>Mn 9e6-9ef>Nd 9f0-9f1>Lo 9f2-9f3>Sc 9f4-9f9>No 9fa>So 9fb>Sc 9fc>Lo
    9fd>Po 9fe>Mn a01-a02>Mn a03>Mc a05-a0a>Lo a0f-a10>Lo a13-a28>Lo a2a-a30>Lo a32-a33>Lo
    a35-a36>Lo a38-a39>Lo a3c>Mn a3e-a40>Mc a41-a42>Mn a47-a48>Mn a4b-a4d>Mn a51>Mn a59-a5c>Lo
    a5e>Lo a66-a6f>Nd a70-a71>Mn a72-a74>Lo a75>Mn a76>Po a81-a82>Mn a83>Mc a85-a8d>Lo
    a8f-a91>Lo a93-aa8>Lo aaa-ab0>Lo ab2-ab3>Lo ab5-ab9>Lo abc>Mn abd>Lo abe-ac0>Mc ac1-ac5>Mn
    ac7-ac8>Mn ac9>Mc acb-acc>Mc acd>Mn ad0>Lo ae0-ae1>Lo ae2-ae3>Mn ae6-aef>Nd af0>Po af1>Sc
    af9>Lo afa-aff>Mn b01>Mn b02-b03>Mc b05-b0c>Lo b0f-b10>Lo b13-b28>Lo b2a-b30>Lo b32-b33>Lo
    b35-b39>Lo b3c>Mn b3d>Lo b3e>Mc b3f>Mn b40>Mc b41-b44>Mn b47-b48>Mc b4b-b4c>Mc b4d>Mn
    b55-b56>Mn b57>Mc b5c-b5d>Lo b5f-b61>Lo b62-b63>Mn b66-b6f>Nd b70>So b71>Lo b72-b77>No
    b82>Mn b83>Lo b85-b8a>Lo b8e-b90>Lo b92-b95>Lo b99-b9a>Lo b9c>Lo b9e-b9f>Lo ba3-ba4>Lo
    ba8-baa>Lo bae-bb9>Lo bbe-bbf>Mc bc0>Mn bc1-bc2>Mc bc6-bc8>Mc bca-bcc>Mc bcd>Mn bd0>Lo
    bd7>Mc be6-bef>Nd bf0-bf2>No bf3-bf8>So bf9>Sc bfa>So c00>Mn c01-c03>Mc c04>Mn c05-c0c>Lo
    c0e-c10>Lo c12-c28>Lo c2a-c39>Lo c3c>Mn c3d>Lo c3e-c40>Mn c41-c44>Mc c46-c48>Mn c4a-c4d>Mn
    c55-c56>Mn c58-c5a>Lo c5d>Lo c60-c61>Lo c62-c63>Mn c66-c6f>Nd c77>Po c78-c7e>No c7f>So
    c80>Lo c81>Mn c82-c83>Mc c84>Po c85-c8c>Lo c8e-c90>Lo c92-ca8>Lo caa-cb3>Lo cb5-cb9>Lo
    cbc>Mn cbd>Lo cbe>Mc cbf>Mn cc0-cc4>Mc cc6>Mn cc7-cc8>Mc cca-ccb>Mc ccc-ccd>Mn cd5-cd6>Mc
    cdd-cde>Lo ce0-ce1>Lo ce2-ce3>Mn ce6-cef>Nd cf1-cf2>Lo cf3>Mc d00-d01>Mn d02-d03>Mc
    d04-d0c>Lo d0e-d10>Lo d12-d3a>Lo d3b-d3c>Mn d3d>Lo d3e-d40>Mc d41-d44>Mn d46-d48>Mc
    d4a-d4c>Mc d4d>Mn d4e>Lo d4f>So d54-d56>Lo d57>Mc d58-d5e>No d5f-d61>Lo d62-d63>Mn
    d66-d6f>Nd d70-d78>No d79>So d7a-d7f>Lo d81>Mn d82-d83>Mc d85-d96>Lo d9a-db1>Lo db3-dbb>Lo
    dbd>Lo dc0-dc6>Lo dca>Mn dcf-dd1>Mc dd2-dd4>Mn dd6>Mn dd8-ddf>Mc de6-def>Nd df2-df3>Mc
    df4>Po e01-e30>Lo e31>Mn e32-e33>Lo e34-e3a>Mn e3f>Sc e40-e45>Lo e46>Lm e47-e4e>Mn e4f>Po
    e50-e59>Nd e5a-e5b>Po e81-e82>Lo e84>Lo e86-e8a>Lo e8c-ea3>Lo ea5>Lo ea7-eb0>Lo eb1>Mn
    eb2-eb3>Lo eb4-ebc>Mn ebd>Lo ec0-ec4>Lo ec6>Lm ec8-ece>Mn ed0-ed9>Nd edc-edf>Lo f00>Lo
    f01-f03>So f04-f12>Po f13>So f14>Po f15-f17>So f18-f19>Mn f1a-f1f>So f20-f29>Nd f2a-f33>No
    f34>So f35>Mn f36>So f37>Mn f38>So f39>Mn f3a>Ps f3b>Pe f3c>Ps f3d>Pe f3e-f3f>Mc f40-f47>Lo
    f49-f6c>Lo f71-f7e>Mn f7f>Mc f80-f84>Mn f85>Po f86-f87>Mn f88-f8c>Lo f8d-f97>Mn f99-fbc>Mn
    fbe-fc5>So fc6>Mn fc7-fcc>So fce-fcf>So fd0-fd4>Po fd5-fd8>So fd9-fda>Po 1000-102a>Lo
    102b-102c>Mc 102d-1030>Mn 1031>Mc 1032-1037>Mn 1038>Mc 1039-103a>Mn 103b-103c>Mc
    103d-103e>Mn 103f>Lo 1040-1049>Nd 104a-104f>Po 1050-1055>Lo 1056-1057>Mc 1058-1059>Mn
    105a-105d>Lo 105e-1060>Mn 1061>Lo 1062-1064>Mc 1065-1066>Lo 1067-106d>Mc 106e-1070>Lo
    1071-1074>Mn 1075-1081>Lo 1082>Mn 1083-1084>Mc 1085-1086>Mn 1087-108c>Mc 108d>Mn 108e>Lo
    108f>Mc 1090-1099>Nd 109a-109c>Mc 109d>Mn 109e-109f>So 10a0-10c5>Lu 10c7>Lu 10cd>Lu
    10d0-10fa>Ll 10fb>Po 10fc>Lm 10fd-10ff>Ll 1100-1248>Lo 124a-124d>Lo 1250-1256>Lo 1258>Lo
    125a-125d>Lo 1260-1288>Lo 128a-128d>Lo 1290-12b0>Lo 12b2-12b5>Lo 12b8-12be>Lo 12c0>Lo
    12c2-12c5>Lo 12c8-12d6>Lo 12d8-1310>Lo 1312-1315>Lo 1318-135a>Lo 135d-135f>Mn 1360-1368>Po
    1369-137c>No 1380-138f>Lo 1390-1399>So 13a0-13f5>Lu 13f8-13fd>Ll 1400>Pd 1401-166c>Lo
    166d>So 166e>Po 166f-167f>Lo 1680>Zs 1681-169a>Lo 169b>Ps 169c>Pe 16a0-16ea>Lo 16eb-16ed>Po
    16ee-16f0>Nl 16f1-16f8>Lo 1700-1711>Lo 1712-1714>Mn 1715>Mc 171f-1731>Lo 1732-1733>Mn
    1734>Mc 1735-1736>Po 1740-1751>Lo 1752-1753>Mn 1760-176c>Lo 176e-1770>Lo 1772-1773>Mn
    1780-17b3>Lo 17b4-17b5>Mn 17b6>Mc 17b7-17bd>Mn 17be-17c5>Mc 17c6>Mn 17c7-17c8>Mc
    17c9-17d3>Mn 17d4-17d6>Po 17d7>Lm 17d8-17da>Po 17db>Sc 17dc>Lo 17dd>Mn 17e0-17e9>Nd
    17f0-17f9>No 1800-1805>Po 1806>Pd 1807-180a>Po 180b-180d>Mn 180e>Cf 180f>Mn 1810-1819>Nd
    1820-1842>Lo 1843>Lm 1844-1878>Lo 1880-1884>Lo 1885-1886>Mn 1887-18a8>Lo 18a9>Mn 18aa>Lo
    18b0-18f5>Lo 1900-191e>Lo 1920-1922>Mn 1923-1926>Mc 1927-1928>Mn 1929-192b>Mc 1930-1931>Mc
    1932>Mn 1933-1938>Mc 1939-193b>Mn 1940>So 1944-1945>Po 1946-194f>Nd 1950-196d>Lo
    1970-1974>Lo 1980-19ab>Lo 19b0-19c9>Lo 19d0-19d9>Nd 19da>No 19de-19ff>So 1a00-1a16>Lo
    1a17-1a18>Mn 1a19-1a1a>Mc 1a1b>Mn 1a1e-1a1f>Po 1a20-1a54>Lo 1a55>Mc 1a56>Mn 1a57>Mc
    1a58-1a5e>Mn 1a60>Mn 1a61>Mc 1a62>Mn 1a63-1a64>Mc 1a65-1a6c>Mn 1a6d-1a72>Mc 1a73-1a7c>Mn
    1a7f>Mn 1a80-1a89>Nd 1a90-1a99>Nd 1aa0-1aa6>Po 1aa7>Lm 1aa8-1aad>Po 1ab0-1abd>Mn 1abe>Me
    1abf-1ace>Mn 1b00-1b03>Mn 1b04>Mc 1b05-1b33>Lo 1b34>Mn 1b35>Mc 1b36-1b3a>Mn 1b3b>Mc 1b3c>Mn
    1b3d-1b41>Mc 1b42>Mn 1b43-1b44>Mc 1b45-1b4c>Lo 1b4e-1b4f>Po 1b50-1b59>Nd 1b5a-1b60>Po
    1b61-1b6a>So 1b6b-1b73>Mn 1b74-1b7c>So 1b7d-1b7f>Po 1b80-1b81>Mn 1b82>Mc 1b83-1ba0>Lo
    1ba1>Mc 1ba2-1ba5>Mn 1ba6-1ba7>Mc 1ba8-1ba9>Mn 1baa>Mc 1bab-1bad>Mn 1bae-1baf>Lo
    1bb0-1bb9>Nd 1bba-1be5>Lo 1be6>Mn 1be7>Mc 1be8-1be9>Mn 1bea-1bec>Mc 1bed>Mn 1bee>Mc
    1bef-1bf1>Mn 1bf2-1bf3>Mc 1bfc-1bff>Po 1c00-1c23>Lo 1c24-1c2b>Mc 1c2c-1c33>Mn 1c34-1c35>Mc
    1c36-1c37>Mn 1c3b-1c3f>Po 1c40-1c49>Nd 1c4d-1c4f>Lo 1c50-1c59>Nd 1c5a-1c77>Lo 1c78-1c7d>Lm
    1c7e-1c7f>Po 1c80-1c88>Ll 1c89>Lu 1c8a>Ll 1c90-1cba>Lu 1cbd-1cbf>Lu 1cc0-1cc7>Po
    1cd0-1cd2>Mn 1cd3>Po 1cd4-1ce0>Mn 1ce1>Mc 1ce2-1ce8>Mn 1ce9-1cec>Lo 1ced>Mn 1cee-1cf3>Lo
    1cf4>Mn 1cf5-1cf6>Lo 1cf7>Mc 1cf8-1cf9>Mn 1cfa>Lo 1d00-1d2b>Ll 1d2c-1d6a>Lm 1d6b-1d77>Ll
    1d78>Lm 1d79-1d9a>Ll 1d9b-1dbf>Lm 1dc0-1dff>Mn 1e00>Lu 1e01>Ll 1e02>Lu 1e03>Ll 1e04>Lu
    1e05>Ll 1e06>Lu 1e07>Ll 1e08>Lu 1e09>Ll 1e0a>Lu 1e0b>Ll 1e0c>Lu 1e0d>Ll 1e0e>Lu 1e0f>Ll
    1e10>Lu 1e11>Ll 1e12>Lu 1e13>Ll 1e14>Lu 1e15>Ll 1e16>Lu 1e17>Ll 1e18>Lu 1e19>Ll 1e1a>Lu
    1e1b>Ll 1e1c>Lu 1e1d>Ll 1e1e>Lu 1e1f>Ll 1e20>Lu 1e21>Ll 1e22>Lu 1e23>Ll 1e24>Lu 1e25>Ll
    1e26>Lu 1e27>Ll 1e28>Lu 1e29>Ll 1e2a>Lu 1e2b>Ll 1e2c>Lu 1e2d>Ll 1e2e>Lu 1e2f>Ll 1e30>Lu
    1e31>Ll 1e32>Lu 1e33>Ll 1e34>Lu 1e35>Ll 1e36>Lu 1e37>Ll 1e38>Lu 1e39>Ll 1e3a>Lu 1e3b>Ll
    1e3c>Lu 1e3d>Ll 1e3e>Lu 1e3f>Ll 1e40>Lu 1e41>Ll 1e42>Lu 1e43>Ll 1e44>Lu 1e45>Ll 1e46>Lu
    1e47>Ll 1e48>Lu 1e49>Ll 1e4a>Lu 1e4b>Ll 1e4c>Lu 1e4d>Ll 1e4e>Lu 1e4f>Ll 1e50>Lu 1e51>Ll
    1e52>Lu 1e53>Ll 1e54>Lu 1e55>Ll 1e56>Lu 1e57>Ll 1e58>Lu 1e59>Ll 1e5a>Lu 1e5b>Ll 1e5c>Lu
    1e5d>Ll 1e5e>Lu 1e5f>Ll 1e60>Lu 1e61>Ll 1e62>Lu 1e63>Ll 1e64>Lu 1e65>Ll 1e66>Lu 1e67>Ll
    1e68>Lu 1e69>Ll 1e6a>Lu 1e6b>Ll 1e6c>Lu 1e6d>Ll 1e6e>Lu 1e6f>Ll 1e70>Lu 1e71>Ll 1e72>Lu
    1e73>Ll 1e74>Lu 1e75>Ll 1e76>Lu 1e77>Ll 1e78>Lu 1e79>Ll 1e7a>Lu 1e7b>Ll 1e7c>Lu 1e7d>Ll
    1e7e>Lu 1e7f>Ll 1e80>Lu 1e81>Ll 1e82>Lu 1e83>Ll 1e84>Lu 1e85>Ll 1e86>Lu 1e87>Ll 1e88>Lu
    1e89>Ll 1e8a>Lu 1e8b>Ll 1e8c>Lu 1e8d>Ll 1e8e>Lu 1e8f>Ll 1e90>Lu 1e91>Ll 1e92>Lu 1e93>Ll
    1e94>Lu 1e95-1e9d>Ll 1e9e>Lu 1e9f>Ll 1ea0>Lu 1ea1>Ll 1ea2>Lu 1ea3>Ll 1ea4>Lu 1ea5>Ll 1ea6>Lu
    1ea7>Ll 1ea8>Lu 1ea9>Ll 1eaa>Lu 1eab>Ll 1eac>Lu 1ead>Ll 1eae>Lu 1eaf>Ll 1eb0>Lu 1eb1>Ll
    1eb2>Lu 1eb3>Ll 1eb4>Lu 1eb5>Ll 1eb6>Lu 1eb7>Ll 1eb8>Lu 1eb9>Ll 1eba>Lu 1ebb>Ll 1ebc>Lu
    1ebd>Ll 1ebe>Lu 1ebf>Ll 1ec0>Lu 1ec1>Ll 1ec2>Lu 1ec3>Ll 1ec4>Lu 1ec5>Ll 1ec6>Lu 1ec7>Ll
    1ec8>Lu 1ec9>Ll 1eca>Lu 1ecb>Ll 1ecc>Lu 1ecd>Ll 1ece>Lu 1ecf>Ll 1ed0>Lu 1ed1>Ll 1ed2>Lu
    1ed3>Ll 1ed4>Lu 1ed5>Ll 1ed6>Lu 1ed7>Ll 1ed8>Lu 1ed9>Ll 1eda>Lu 1edb>Ll 1edc>Lu 1edd>Ll
    1ede>Lu 1edf>Ll 1ee0>Lu 1ee1>Ll 1ee2>Lu 1ee3>Ll 1ee4>Lu 1ee5>Ll 1ee6>Lu 1ee7>Ll 1ee8>Lu
    1ee9>Ll 1eea>Lu 1eeb>Ll 1eec>Lu 1eed>Ll 1eee>Lu 1eef>Ll 1ef0>Lu 1ef1>Ll 1ef2>Lu 1ef3>Ll
    1ef4>Lu 1ef5>Ll 1ef6>Lu 1ef7>Ll 1ef8>Lu 1ef9>Ll 1efa>Lu 1efb>Ll 1efc>Lu 1efd>Ll 1efe>Lu
    1eff-1f07>Ll 1f08-1f0f>Lu 1f10-1f15>Ll 1f18-1f1d>Lu 1f20-1f27>Ll 1f28-1f2f>Lu 1f30-1f37>Ll
    1f38-1f3f>Lu 1f40-1f45>Ll 1f48-1f4d>Lu 1f50-1f57>Ll 1f59>Lu 1f5b>Lu 1f5d>Lu 1f5f>Lu
    1f60-1f67>Ll 1f68-1f6f>Lu 1f70-1f7d>Ll 1f80-1f87>Ll 1f88-1f8f>Lt 1f90-1f97>Ll 1f98-1f9f>Lt
    1fa0-1fa7>Ll 1fa8-1faf>Lt 1fb0-1fb4>Ll 1fb6-1fb7>Ll 1fb8-1fbb>Lu 1fbc>Lt 1fbd>Sk 1fbe>Ll
    1fbf-1fc1>Sk 1fc2-1fc4>Ll 1fc6-1fc7>Ll 1fc8-1fcb>Lu 1fcc>Lt 1fcd-1fcf>Sk 1fd0-1fd3>Ll
    1fd6-1fd7>Ll 1fd8-1fdb>Lu 1fdd-1fdf>Sk 1fe0-1fe7>Ll 1fe8-1fec>Lu 1fed-1fef>Sk 1ff2-1ff4>Ll
    1ff6-1ff7>Ll 1ff8-1ffb>Lu 1ffc>Lt 1ffd-1ffe>Sk 2000-200a>Zs 200b-200f>Cf 2010-2015>Pd
    2016-2017>Po 2018>Pi 2019>Pf 201a>Ps 201b-201c>Pi 201d>Pf 201e>Ps 201f>Pi 2020-2027>Po
    2028>Zl 2029>Zp 202a-202e>Cf 202f>Zs 2030-2038>Po 2039>Pi 203a>Pf 203b-203e>Po 203f-2040>Pc
    2041-2043>Po 2044>Sm 2045>Ps 2046>Pe 2047-2051>Po 2052>Sm 2053>Po 2054>Pc 2055-205e>Po
    205f>Zs 2060-2064>Cf 2066-206f>Cf 2070>No 2071>Lm 2074-2079>No 207a-207c>Sm 207d>Ps 207e>Pe
    207f>Lm 2080-2089>No 208a-208c>Sm 208d>Ps 208e>Pe 2090-209c>Lm 20a0-20c0>Sc 20d0-20dc>Mn
    20dd-20e0>Me 20e1>Mn 20e2-20e4>Me 20e5-20f0>Mn 2100-2101>So 2102>Lu 2103-2106>So 2107>Lu
    2108-2109>So 210a>Ll 210b-210d>Lu 210e-210f>Ll 2110-2112>Lu 2113>Ll 2114>So 2115>Lu
    2116-2117>So 2118>Sm 2119-211d>Lu 211e-2123>So 2124>Lu 2125>So 2126>Lu 2127>So 2128>Lu
    2129>So 212a-212d>Lu 212e>So 212f>Ll 2130-2133>Lu 2134>Ll 2135-2138>Lo 2139>Ll 213a-213b>So
    213c-213d>Ll 213e-213f>Lu 2140-2144>Sm 2145>Lu 2146-2149>Ll 214a>So 214b>Sm 214c-214d>So
    214e>Ll 214f>So 2150-215f>No 2160-2182>Nl 2183>Lu 2184>Ll 2185-2188>Nl 2189>No 218a-218b>So
    2190-2194>Sm 2195-2199>So 219a-219b>Sm 219c-219f>So 21a0>Sm 21a1-21a2>So 21a3>Sm
    21a4-21a5>So 21a6>Sm 21a7-21ad>So 21ae>Sm 21af-21cd>So 21ce-21cf>Sm 21d0-21d1>So 21d2>Sm
    21d3>So 21d4>Sm 21d5-21f3>So 21f4-22ff>Sm 2300-2307>So 2308>Ps 2309>Pe 230a>Ps 230b>Pe
    230c-231f>So 2320-2321>Sm 2322-2328>So 2329>Ps 232a>Pe 232b-237b>So 237c>Sm 237d-239a>So
    239b-23b3>Sm 23b4-23db>So 23dc-23e1>Sm 23e2-2429>So 2440-244a>So 2460-249b>No 249c-24e9>So
    24ea-24ff>No 2500-25b6>So 25b7>Sm 25b8-25c0>So 25c1>Sm 25c2-25f7>So 25f8-25ff>Sm
    2600-266e>So 266f>Sm 2670-2767>So 2768>Ps 2769>Pe 276a>Ps 276b>Pe 276c>Ps 276d>Pe 276e>Ps
    276f>Pe 2770>Ps 2771>Pe 2772>Ps 2773>Pe 2774>Ps 2775>Pe 2776-2793>No 2794-27bf>So
    27c0-27c4>Sm 27c5>Ps 27c6>Pe 27c7-27e5>Sm 27e6>Ps 27e7>Pe 27e8>Ps 27e9>Pe 27ea>Ps 27eb>Pe
    27ec>Ps 27ed>Pe 27ee>Ps 27ef>Pe 27f0-27ff>Sm 2800-28ff>So 2900-2982>Sm 2983>Ps 2984>Pe
    2985>Ps 2986>Pe 2987>Ps 2988>Pe 2989>Ps 298a>Pe 298b>Ps 298c>Pe 298d>Ps 298e>Pe 298f>Ps
    2990>Pe 2991>Ps 2992>Pe 2993>Ps 2994>Pe 2995>Ps 2996>Pe 2997>Ps 2998>Pe 2999-29d7>Sm 29d8>Ps
    29d9>Pe 29da>Ps 29db>Pe 29dc-29fb>Sm 29fc>Ps 29fd>Pe 29fe-2aff>Sm 2b00-2b2f>So 2b30-2b44>Sm
    2b45-2b46>So 2b47-2b4c>Sm 2b4d-2b73>So 2b76-2b95>So 2b97-2bff>So 2c00-2c2f>Lu 2c30-2c5f>Ll
    2c60>Lu 2c61>Ll 2c62-2c64>Lu 2c65-2c66>Ll 2c67>Lu 2c68>Ll 2c69>Lu 2c6a>Ll 2c6b>Lu 2c6c>Ll
    2c6d-2c70>Lu 2c71>Ll 2c72>Lu 2c73-2c74>Ll 2c75>Lu 2c76-2c7b>Ll 2c7c-2c7d>Lm 2c7e-2c80>Lu
    2c81>Ll 2c82>Lu 2c83>Ll 2c84>Lu 2c85>Ll 2c86>Lu 2c87>Ll 2c88>Lu 2c89>Ll 2c8a>Lu 2c8b>Ll
    2c8c>Lu 2c8d>Ll 2c8e>Lu 2c8f>Ll 2c90>Lu 2c91>Ll 2c92>Lu 2c93>Ll 2c94>Lu 2c95>Ll 2c96>Lu
    2c97>Ll 2c98>Lu 2c99>Ll 2c9a>Lu 2c9b>Ll 2c9c>Lu 2c9d>Ll 2c9e>Lu 2c9f>Ll 2ca0>Lu 2ca1>Ll
    2ca2>Lu 2ca3>Ll 2ca4>Lu 2ca5>Ll 2ca6>Lu 2ca7>Ll 2ca8>Lu 2ca9>Ll 2caa>Lu 2cab>Ll 2cac>Lu
    2cad>Ll 2cae>Lu 2caf>Ll 2cb0>Lu 2cb1>Ll 2cb2>Lu 2cb3>Ll 2cb4>Lu 2cb5>Ll 2cb6>Lu 2cb7>Ll
    2cb8>Lu 2cb9>Ll 2cba>Lu 2cbb>Ll 2cbc>Lu 2cbd>Ll 2cbe>Lu 2cbf>Ll 2cc0>Lu 2cc1>Ll 2cc2>Lu
    2cc3>Ll 2cc4>Lu 2cc5>Ll 2cc6>Lu 2cc7>Ll 2cc8>Lu 2cc9>Ll 2cca>Lu 2ccb>Ll 2ccc>Lu 2ccd>Ll
    2cce>Lu 2ccf>Ll 2cd0>Lu 2cd1>Ll 2cd2>Lu 2cd3>Ll 2cd4>Lu 2cd5>Ll 2cd6>Lu 2cd7>Ll 2cd8>Lu
    2cd9>Ll 2cda>Lu 2cdb>Ll 2cdc>Lu 2cdd>Ll 2cde>Lu 2cdf>Ll 2ce0>Lu 2ce1>Ll 2ce2>Lu 2ce3-2ce4>Ll
    2ce5-2cea>So 2ceb>Lu 2cec>Ll 2ced>Lu 2cee>Ll 2cef-2cf1>Mn 2cf2>Lu 2cf3>Ll 2cf9-2cfc>Po
    2cfd>No 2cfe-2cff>Po 2d00-2d25>Ll 2d27>Ll 2d2d>Ll 2d30-2d67>Lo 2d6f>Lm 2d70>Po 2d7f>Mn
    2d80-2d96>Lo 2da0-2da6>Lo 2da8-2dae>Lo 2db0-2db6>Lo 2db8-2dbe>Lo 2dc0-2dc6>Lo 2dc8-2dce>Lo
    2dd0-2dd6>Lo 2dd8-2dde>Lo 2de0-2dff>Mn 2e00-2e01>Po 2e02>Pi 2e03>Pf 2e04>Pi 2e05>Pf
    2e06-2e08>Po 2e09>Pi 2e0a>Pf 2e0b>Po 2e0c>Pi 2e0d>Pf 2e0e-2e16>Po 2e17>Pd 2e18-2e19>Po
    2e1a>Pd 2e1b>Po 2e1c>Pi 2e1d>Pf 2e1e-2e1f>Po 2e20>Pi 2e21>Pf 2e22>Ps 2e23>Pe 2e24>Ps 2e25>Pe
    2e26>Ps 2e27>Pe 2e28>Ps 2e29>Pe 2e2a-2e2e>Po 2e2f>Lm 2e30-2e39>Po 2e3a-2e3b>Pd 2e3c-2e3f>Po
    2e40>Pd 2e41>Po 2e42>Ps 2e43-2e4f>Po 2e50-2e51>So 2e52-2e54>Po 2e55>Ps 2e56>Pe 2e57>Ps
    2e58>Pe 2e59>Ps 2e5a>Pe 2e5b>Ps 2e5c>Pe 2e5d>Pd 2e80-2e99>So 2e9b-2ef3>So 2f00-2fd5>So
    2ff0-2fff>So 3000>Zs 3001-3003>Po 3004>So 3005>Lm 3006>Lo 3007>Nl 3008>Ps 3009>Pe 300a>Ps
    300b>Pe 300c>Ps 300d>Pe 300e>Ps 300f>Pe 3010>Ps 3011>Pe 3012-3013>So 3014>Ps 3015>Pe 3016>Ps
    3017>Pe 3018>Ps 3019>Pe 301a>Ps 301b>Pe 301c>Pd 301d>Ps 301e-301f>Pe 3020>So 3021-3029>Nl
    302a-302d>Mn 302e-302f>Mc 3030>Pd 3031-3035>Lm 3036-3037>So 3038-303a>Nl 303b>Lm 303c>Lo
    303d>Po 303e-303f>So 3041-3096>Lo 3099-309a>Mn 309b-309c>Sk 309d-309e>Lm 309f>Lo 30a0>Pd
    30a1-30fa>Lo 30fb>Po 30fc-30fe>Lm 30ff>Lo 3105-312f>Lo 3131-318e>Lo 3190-3191>So
    3192-3195>No 3196-319f>So 31a0-31bf>Lo 31c0-31e5>So 31ef>So 31f0-31ff>Lo 3200-321e>So
    3220-3229>No 322a-3247>So 3248-324f>No 3250>So 3251-325f>No 3260-327f>So 3280-3289>No
    328a-32b0>So 32b1-32bf>No 32c0-33ff>So 3400-4dbf>Lo 4dc0-4dff>So 4e00-a014>Lo a015>Lm
    a016-a48c>Lo a490-a4c6>So a4d0-a4f7>Lo a4f8-a4fd>Lm a4fe-a4ff>Po a500-a60b>Lo a60c>Lm
    a60d-a60f>Po a610-a61f>Lo a620-a629>Nd a62a-a62b>Lo a640>Lu a641>Ll a642>Lu a643>Ll a644>Lu
    a645>Ll a646>Lu a647>Ll a648>Lu a649>Ll a64a>Lu a64b>Ll a64c>Lu a64d>Ll a64e>Lu a64f>Ll
    a650>Lu a651>Ll a652>Lu a653>Ll a654>Lu a655>Ll a656>Lu a657>Ll a658>Lu a659>Ll a65a>Lu
    a65b>Ll a65c>Lu a65d>Ll a65e>Lu a65f>Ll a660>Lu a661>Ll a662>Lu a663>Ll a664>Lu a665>Ll
    a666>Lu a667>Ll a668>Lu a669>Ll a66a>Lu a66b>Ll a66c>Lu a66d>Ll a66e>Lo a66f>Mn a670-a672>Me
    a673>Po a674-a67d>Mn a67e>Po a67f>Lm a680>Lu a681>Ll a682>Lu a683>Ll a684>Lu a685>Ll a686>Lu
    a687>Ll a688>Lu a689>Ll a68a>Lu a68b>Ll a68c>Lu a68d>Ll a68e>Lu a68f>Ll a690>Lu a691>Ll
    a692>Lu a693>Ll a694>Lu a695>Ll a696>Lu a697>Ll a698>Lu a699>Ll a69a>Lu a69b>Ll a69c-a69d>Lm
    a69e-a69f>Mn a6a0-a6e5>Lo a6e6-a6ef>Nl a6f0-a6f1>Mn a6f2-a6f7>Po a700-a716>Sk a717-a71f>Lm
    a720-a721>Sk a722>Lu a723>Ll a724>Lu a725>Ll a726>Lu a727>Ll a728>Lu a729>Ll a72a>Lu a72b>Ll
    a72c>Lu a72d>Ll a72e>Lu a72f-a731>Ll a732>Lu a733>Ll a734>Lu a735>Ll a736>Lu a737>Ll a738>Lu
    a739>Ll a73a>Lu a73b>Ll a73c>Lu a73d>Ll a73e>Lu a73f>Ll a740>Lu a741>Ll a742>Lu a743>Ll
    a744>Lu a745>Ll a746>Lu a747>Ll a748>Lu a749>Ll a74a>Lu a74b>Ll a74c>Lu a74d>Ll a74e>Lu
    a74f>Ll a750>Lu a751>Ll a752>Lu a753>Ll a754>Lu a755>Ll a756>Lu a757>Ll a758>Lu a759>Ll
    a75a>Lu a75b>Ll a75c>Lu a75d>Ll a75e>Lu a75f>Ll a760>Lu a761>Ll a762>Lu a763>Ll a764>Lu
    a765>Ll a766>Lu a767>Ll a768>Lu a769>Ll a76a>Lu a76b>Ll a76c>Lu a76d>Ll a76e>Lu a76f>Ll
    a770>Lm a771-a778>Ll a779>Lu a77a>Ll a77b>Lu a77c>Ll a77d-a77e>Lu a77f>Ll a780>Lu a781>Ll
    a782>Lu a783>Ll a784>Lu a785>Ll a786>Lu a787>Ll a788>Lm a789-a78a>Sk a78b>Lu a78c>Ll a78d>Lu
    a78e>Ll a78f>Lo a790>Lu a791>Ll a792>Lu a793-a795>Ll a796>Lu a797>Ll a798>Lu a799>Ll a79a>Lu
    a79b>Ll a79c>Lu a79d>Ll a79e>Lu a79f>Ll a7a0>Lu a7a1>Ll a7a2>Lu a7a3>Ll a7a4>Lu a7a5>Ll
    a7a6>Lu a7a7>Ll a7a8>Lu a7a9>Ll a7aa-a7ae>Lu a7af>Ll a7b0-a7b4>Lu a7b5>Ll a7b6>Lu a7b7>Ll
    a7b8>Lu a7b9>Ll a7ba>Lu a7bb>Ll a7bc>Lu a7bd>Ll a7be>Lu a7bf>Ll a7c0>Lu a7c1>Ll a7c2>Lu
    a7c3>Ll a7c4-a7c7>Lu a7c8>Ll a7c9>Lu a7ca>Ll a7cb-a7cc>Lu a7cd>Ll a7d0>Lu a7d1>Ll a7d3>Ll
    a7d5>Ll a7d6>Lu a7d7>Ll a7d8>Lu a7d9>Ll a7da>Lu a7db>Ll a7dc>Lu a7f2-a7f4>Lm a7f5>Lu a7f6>Ll
    a7f7>Lo a7f8-a7f9>Lm a7fa>Ll a7fb-a801>Lo a802>Mn a803-a805>Lo a806>Mn a807-a80a>Lo a80b>Mn
    a80c-a822>Lo a823-a824>Mc a825-a826>Mn a827>Mc a828-a82b>So a82c>Mn a830-a835>No
    a836-a837>So a838>Sc a839>So a840-a873>Lo a874-a877>Po a880-a881>Mc a882-a8b3>Lo
    a8b4-a8c3>Mc a8c4-a8c5>Mn a8ce-a8cf>Po a8d0-a8d9>Nd a8e0-a8f1>Mn a8f2-a8f7>Lo a8f8-a8fa>Po
    a8fb>Lo a8fc>Po a8fd-a8fe>Lo a8ff>Mn a900-a909>Nd a90a-a925>Lo a926-a92d>Mn a92e-a92f>Po
    a930-a946>Lo a947-a951>Mn a952-a953>Mc a95f>Po a960-a97c>Lo a980-a982>Mn a983>Mc
    a984-a9b2>Lo a9b3>Mn a9b4-a9b5>Mc a9b6-a9b9>Mn a9ba-a9bb>Mc a9bc-a9bd>Mn a9be-a9c0>Mc
    a9c1-a9cd>Po a9cf>Lm a9d0-a9d9>Nd a9de-a9df>Po a9e0-a9e4>Lo a9e5>Mn a9e6>Lm a9e7-a9ef>Lo
    a9f0-a9f9>Nd a9fa-a9fe>Lo aa00-aa28>Lo aa29-aa2e>Mn aa2f-aa30>Mc aa31-aa32>Mn aa33-aa34>Mc
    aa35-aa36>Mn aa40-aa42>Lo aa43>Mn aa44-aa4b>Lo aa4c>Mn aa4d>Mc aa50-aa59>Nd aa5c-aa5f>Po
    aa60-aa6f>Lo aa70>Lm aa71-aa76>Lo aa77-aa79>So aa7a>Lo aa7b>Mc aa7c>Mn aa7d>Mc aa7e-aaaf>Lo
    aab0>Mn aab1>Lo aab2-aab4>Mn aab5-aab6>Lo aab7-aab8>Mn aab9-aabd>Lo aabe-aabf>Mn aac0>Lo
    aac1>Mn aac2>Lo aadb-aadc>Lo aadd>Lm aade-aadf>Po aae0-aaea>Lo aaeb>Mc aaec-aaed>Mn
    aaee-aaef>Mc aaf0-aaf1>Po aaf2>Lo aaf3-aaf4>Lm aaf5>Mc aaf6>Mn ab01-ab06>Lo ab09-ab0e>Lo
    ab11-ab16>Lo ab20-ab26>Lo ab28-ab2e>Lo ab30-ab5a>Ll ab5b>Sk ab5c-ab5f>Lm ab60-ab68>Ll
    ab69>Lm ab6a-ab6b>Sk ab70-abbf>Ll abc0-abe2>Lo abe3-abe4>Mc abe5>Mn abe6-abe7>Mc abe8>Mn
    abe9-abea>Mc abeb>Po abec>Mc abed>Mn abf0-abf9>Nd ac00-d7a3>Lo d7b0-d7c6>Lo d7cb-d7fb>Lo
    e000-f8ff>Co f900-fa6d>Lo fa70-fad9>Lo fb00-fb06>Ll fb13-fb17>Ll fb1d>Lo fb1e>Mn
    fb1f-fb28>Lo fb29>Sm fb2a-fb36>Lo fb38-fb3c>Lo fb3e>Lo fb40-fb41>Lo fb43-fb44>Lo
    fb46-fbb1>Lo fbb2-fbc2>Sk fbd3-fd3d>Lo fd3e>Pe fd3f>Ps fd40-fd4f>So fd50-fd8f>Lo
    fd92-fdc7>Lo fdcf>So fdf0-fdfb>Lo fdfc>Sc fdfd-fdff>So fe00-fe0f>Mn fe10-fe16>Po fe17>Ps
    fe18>Pe fe19>Po fe20-fe2f>Mn fe30>Po fe31-fe32>Pd fe33-fe34>Pc fe35>Ps fe36>Pe fe37>Ps
    fe38>Pe fe39>Ps fe3a>Pe fe3b>Ps fe3c>Pe fe3d>Ps fe3e>Pe fe3f>Ps fe40>Pe fe41>Ps fe42>Pe
    fe43>Ps fe44>Pe fe45-fe46>Po fe47>Ps fe48>Pe fe49-fe4c>Po fe4d-fe4f>Pc fe50-fe52>Po
    fe54-fe57>Po fe58>Pd fe59>Ps fe5a>Pe fe5b>Ps fe5c>Pe fe5d>Ps fe5e>Pe fe5f-fe61>Po fe62>Sm
    fe63>Pd fe64-fe66>Sm fe68>Po fe69>Sc fe6a-fe6b>Po fe70-fe74>Lo fe76-fefc>Lo feff>Cf
    ff01-ff03>Po ff04>Sc ff05-ff07>Po ff08>Ps ff09>Pe ff0a>Po ff0b>Sm ff0c>Po ff0d>Pd
    ff0e-ff0f>Po ff10-ff19>Nd ff1a-ff1b>Po ff1c-ff1e>Sm ff1f-ff20>Po ff21-ff3a>Lu ff3b>Ps
    ff3c>Po ff3d>Pe ff3e>Sk ff3f>Pc ff40>Sk ff41-ff5a>Ll ff5b>Ps ff5c>Sm ff5d>Pe ff5e>Sm ff5f>Ps
    ff60>Pe ff61>Po ff62>Ps ff63>Pe ff64-ff65>Po ff66-ff6f>Lo ff70>Lm ff71-ff9d>Lo ff9e-ff9f>Lm
    ffa0-ffbe>Lo ffc2-ffc7>Lo ffca-ffcf>Lo ffd2-ffd7>Lo ffda-ffdc>Lo ffe0-ffe1>Sc ffe2>Sm
    ffe3>Sk ffe4>So ffe5-ffe6>Sc ffe8>So ffe9-ffec>Sm ffed-ffee>So fff9-fffb>Cf fffc-fffd>So
    10000-1000b>Lo 1000d-10026>Lo 10028-1003a>Lo 1003c-1003d>Lo 1003f-1004d>Lo 10050-1005d>Lo
    10080-100fa>Lo 10100-10102>Po 10107-10133>No 10137-1013f>So 10140-10174>Nl 10175-10178>No
    10179-10189>So 1018a-1018b>No 1018c-1018e>So 10190-1019c>So 101a0>So 101d0-101fc>So 101fd>Mn
    10280-1029c>Lo 102a0-102d0>Lo 102e0>Mn 102e1-102fb>No 10300-1031f>Lo 10320-10323>No
    1032d-10340>Lo 10341>Nl 10342-10349>Lo 1034a>Nl 10350-10375>Lo 10376-1037a>Mn 10380-1039d>Lo
    1039f>Po 103a0-103c3>Lo 103c8-103cf>Lo 103d0>Po 103d1-103d5>Nl 10400-10427>Lu 10428-1044f>Ll
    10450-1049d>Lo 104a0-104a9>Nd 104b0-104d3>Lu 104d8-104fb>Ll 10500-10527>Lo 10530-10563>Lo
    1056f>Po 10570-1057a>Lu 1057c-1058a>Lu 1058c-10592>Lu 10594-10595>Lu 10597-105a1>Ll
    105a3-105b1>Ll 105b3-105b9>Ll 105bb-105bc>Ll 105c0-105f3>Lo 10600-10736>Lo 10740-10755>Lo
    10760-10767>Lo 10780-10785>Lm 10787-107b0>Lm 107b2-107ba>Lm 10800-10805>Lo 10808>Lo
    1080a-10835>Lo 10837-10838>Lo 1083c>Lo 1083f-10855>Lo 10857>Po 10858-1085f>No 10860-10876>Lo
    10877-10878>So 10879-1087f>No 10880-1089e>Lo 108a7-108af>No 108e0-108f2>Lo 108f4-108f5>Lo
    108fb-108ff>No 10900-10915>Lo 10916-1091b>No 1091f>Po 10920-10939>Lo 1093f>Po 10980-109b7>Lo
    109bc-109bd>No 109be-109bf>Lo 109c0-109cf>No 109d2-109ff>No 10a00>Lo 10a01-10a03>Mn
    10a05-10a06>Mn 10a0c-10a0f>Mn 10a10-10a13>Lo 10a15-10a17>Lo 10a19-10a35>Lo 10a38-10a3a>Mn
    10a3f>Mn 10a40-10a48>No 10a50-10a58>Po 10a60-10a7c>Lo 10a7d-10a7e>No 10a7f>Po 10a80-10a9c>Lo
    10a9d-10a9f>No 10ac0-10ac7>Lo 10ac8>So 10ac9-10ae4>Lo 10ae5-10ae6>Mn 10aeb-10aef>No
    10af0-10af6>Po 10b00-10b35>Lo 10b39-10b3f>Po 10b40-10b55>Lo 10b58-10b5f>No 10b60-10b72>Lo
    10b78-10b7f>No 10b80-10b91>Lo 10b99-10b9c>Po 10ba9-10baf>No 10c00-10c48>Lo 10c80-10cb2>Lu
    10cc0-10cf2>Ll 10cfa-10cff>No 10d00-10d23>Lo 10d24-10d27>Mn 10d30-10d39>Nd 10d40-10d49>Nd
    10d4a-10d4d>Lo 10d4e>Lm 10d4f>Lo 10d50-10d65>Lu 10d69-10d6d>Mn 10d6e>Pd 10d6f>Lm
    10d70-10d85>Ll 10d8e-10d8f>Sm 10e60-10e7e>No 10e80-10ea9>Lo 10eab-10eac>Mn 10ead>Pd
    10eb0-10eb1>Lo 10ec2-10ec4>Lo 10efc-10eff>Mn 10f00-10f1c>Lo 10f1d-10f26>No 10f27>Lo
    10f30-10f45>Lo 10f46-10f50>Mn 10f51-10f54>No 10f55-10f59>Po 10f70-10f81>Lo 10f82-10f85>Mn
    10f86-10f89>Po 10fb0-10fc4>Lo 10fc5-10fcb>No 10fe0-10ff6>Lo 11000>Mc 11001>Mn 11002>Mc
    11003-11037>Lo 11038-11046>Mn 11047-1104d>Po 11052-11065>No 11066-1106f>Nd 11070>Mn
    11071-11072>Lo 11073-11074>Mn 11075>Lo 1107f-11081>Mn 11082>Mc 11083-110af>Lo 110b0-110b2>Mc
    110b3-110b6>Mn 110b7-110b8>Mc 110b9-110ba>Mn 110bb-110bc>Po 110bd>Cf 110be-110c1>Po 110c2>Mn
    110cd>Cf 110d0-110e8>Lo 110f0-110f9>Nd 11100-11102>Mn 11103-11126>Lo 11127-1112b>Mn 1112c>Mc
    1112d-11134>Mn 11136-1113f>Nd 11140-11143>Po 11144>Lo 11145-11146>Mc 11147>Lo 11150-11172>Lo
    11173>Mn 11174-11175>Po 11176>Lo 11180-11181>Mn 11182>Mc 11183-111b2>Lo 111b3-111b5>Mc
    111b6-111be>Mn 111bf-111c0>Mc 111c1-111c4>Lo 111c5-111c8>Po 111c9-111cc>Mn 111cd>Po 111ce>Mc
    111cf>Mn 111d0-111d9>Nd 111da>Lo 111db>Po 111dc>Lo 111dd-111df>Po 111e1-111f4>No
    11200-11211>Lo 11213-1122b>Lo 1122c-1122e>Mc 1122f-11231>Mn 11232-11233>Mc 11234>Mn 11235>Mc
    11236-11237>Mn 11238-1123d>Po 1123e>Mn 1123f-11240>Lo 11241>Mn 11280-11286>Lo 11288>Lo
    1128a-1128d>Lo 1128f-1129d>Lo 1129f-112a8>Lo 112a9>Po 112b0-112de>Lo 112df>Mn 112e0-112e2>Mc
    112e3-112ea>Mn 112f0-112f9>Nd 11300-11301>Mn 11302-11303>Mc 11305-1130c>Lo 1130f-11310>Lo
    11313-11328>Lo 1132a-11330>Lo 11332-11333>Lo 11335-11339>Lo 1133b-1133c>Mn 1133d>Lo
    1133e-1133f>Mc 11340>Mn 11341-11344>Mc 11347-11348>Mc 1134b-1134d>Mc 11350>Lo 11357>Mc
    1135d-11361>Lo 11362-11363>Mc 11366-1136c>Mn 11370-11374>Mn 11380-11389>Lo 1138b>Lo 1138e>Lo
    11390-113b5>Lo 113b7>Lo 113b8-113ba>Mc 113bb-113c0>Mn 113c2>Mc 113c5>Mc 113c7-113ca>Mc
    113cc-113cd>Mc 113ce>Mn 113cf>Mc 113d0>Mn 113d1>Lo 113d2>Mn 113d3>Lo 113d4-113d5>Po
    113d7-113d8>Po 113e1-113e2>Mn 11400-11434>Lo 11435-11437>Mc 11438-1143f>Mn 11440-11441>Mc
    11442-11444>Mn 11445>Mc 11446>Mn 11447-1144a>Lo 1144b-1144f>Po 11450-11459>Nd 1145a-1145b>Po
    1145d>Po 1145e>Mn 1145f-11461>Lo 11480-114af>Lo 114b0-114b2>Mc 114b3-114b8>Mn 114b9>Mc
    114ba>Mn 114bb-114be>Mc 114bf-114c0>Mn 114c1>Mc 114c2-114c3>Mn 114c4-114c5>Lo 114c6>Po
    114c7>Lo 114d0-114d9>Nd 11580-115ae>Lo 115af-115b1>Mc 115b2-115b5>Mn 115b8-115bb>Mc
    115bc-115bd>Mn 115be>Mc 115bf-115c0>Mn 115c1-115d7>Po 115d8-115db>Lo 115dc-115dd>Mn
    11600-1162f>Lo 11630-11632>Mc 11633-1163a>Mn 1163b-1163c>Mc 1163d>Mn 1163e>Mc 1163f-11640>Mn
    11641-11643>Po 11644>Lo 11650-11659>Nd 11660-1166c>Po 11680-116aa>Lo 116ab>Mn 116ac>Mc
    116ad>Mn 116ae-116af>Mc 116b0-116b5>Mn 116b6>Mc 116b7>Mn 116b8>Lo 116b9>Po 116c0-116c9>Nd
    116d0-116e3>Nd 11700-1171a>Lo 1171d>Mn 1171e>Mc 1171f>Mn 11720-11721>Mc 11722-11725>Mn
    11726>Mc 11727-1172b>Mn 11730-11739>Nd 1173a-1173b>No 1173c-1173e>Po 1173f>So 11740-11746>Lo
    11800-1182b>Lo 1182c-1182e>Mc 1182f-11837>Mn 11838>Mc 11839-1183a>Mn 1183b>Po 118a0-118bf>Lu
    118c0-118df>Ll 118e0-118e9>Nd 118ea-118f2>No 118ff-11906>Lo 11909>Lo 1190c-11913>Lo
    11915-11916>Lo 11918-1192f>Lo 11930-11935>Mc 11937-11938>Mc 1193b-1193c>Mn 1193d>Mc 1193e>Mn
    1193f>Lo 11940>Mc 11941>Lo 11942>Mc 11943>Mn 11944-11946>Po 11950-11959>Nd 119a0-119a7>Lo
    119aa-119d0>Lo 119d1-119d3>Mc 119d4-119d7>Mn 119da-119db>Mn 119dc-119df>Mc 119e0>Mn 119e1>Lo
    119e2>Po 119e3>Lo 119e4>Mc 11a00>Lo 11a01-11a0a>Mn 11a0b-11a32>Lo 11a33-11a38>Mn 11a39>Mc
    11a3a>Lo 11a3b-11a3e>Mn 11a3f-11a46>Po 11a47>Mn 11a50>Lo 11a51-11a56>Mn 11a57-11a58>Mc
    11a59-11a5b>Mn 11a5c-11a89>Lo 11a8a-11a96>Mn 11a97>Mc 11a98-11a99>Mn 11a9a-11a9c>Po 11a9d>Lo
    11a9e-11aa2>Po 11ab0-11af8>Lo 11b00-11b09>Po 11bc0-11be0>Lo 11be1>Po 11bf0-11bf9>Nd
    11c00-11c08>Lo 11c0a-11c2e>Lo 11c2f>Mc 11c30-11c36>Mn 11c38-11c3d>Mn 11c3e>Mc 11c3f>Mn
    11c40>Lo 11c41-11c45>Po 11c50-11c59>Nd 11c5a-11c6c>No 11c70-11c71>Po 11c72-11c8f>Lo
    11c92-11ca7>Mn 11ca9>Mc 11caa-11cb0>Mn 11cb1>Mc 11cb2-11cb3>Mn 11cb4>Mc 11cb5-11cb6>Mn
    11d00-11d06>Lo 11d08-11d09>Lo 11d0b-11d30>Lo 11d31-11d36>Mn 11d3a>Mn 11d3c-11d3d>Mn
    11d3f-11d45>Mn 11d46>Lo 11d47>Mn 11d50-11d59>Nd 11d60-11d65>Lo 11d67-11d68>Lo 11d6a-11d89>Lo
    11d8a-11d8e>Mc 11d90-11d91>Mn 11d93-11d94>Mc 11d95>Mn 11d96>Mc 11d97>Mn 11d98>Lo
    11da0-11da9>Nd 11ee0-11ef2>Lo 11ef3-11ef4>Mn 11ef5-11ef6>Mc 11ef7-11ef8>Po 11f00-11f01>Mn
    11f02>Lo 11f03>Mc 11f04-11f10>Lo 11f12-11f33>Lo 11f34-11f35>Mc 11f36-11f3a>Mn 11f3e-11f3f>Mc
    11f40>Mn 11f41>Mc 11f42>Mn 11f43-11f4f>Po 11f50-11f59>Nd 11f5a>Mn 11fb0>Lo 11fc0-11fd4>No
    11fd5-11fdc>So 11fdd-11fe0>Sc 11fe1-11ff1>So 11fff>Po 12000-12399>Lo 12400-1246e>Nl
    12470-12474>Po 12480-12543>Lo 12f90-12ff0>Lo 12ff1-12ff2>Po 13000-1342f>Lo 13430-1343f>Cf
    13440>Mn 13441-13446>Lo 13447-13455>Mn 13460-143fa>Lo 14400-14646>Lo 16100-1611d>Lo
    1611e-16129>Mn 1612a-1612c>Mc 1612d-1612f>Mn 16130-16139>Nd 16800-16a38>Lo 16a40-16a5e>Lo
    16a60-16a69>Nd 16a6e-16a6f>Po 16a70-16abe>Lo 16ac0-16ac9>Nd 16ad0-16aed>Lo 16af0-16af4>Mn
    16af5>Po 16b00-16b2f>Lo 16b30-16b36>Mn 16b37-16b3b>Po 16b3c-16b3f>So 16b40-16b43>Lm 16b44>Po
    16b45>So 16b50-16b59>Nd 16b5b-16b61>No 16b63-16b77>Lo 16b7d-16b8f>Lo 16d40-16d42>Lm
    16d43-16d6a>Lo 16d6b-16d6c>Lm 16d6d-16d6f>Po 16d70-16d79>Nd 16e40-16e5f>Lu 16e60-16e7f>Ll
    16e80-16e96>No 16e97-16e9a>Po 16f00-16f4a>Lo 16f4f>Mn 16f50>Lo 16f51-16f87>Mc 16f8f-16f92>Mn
    16f93-16f9f>Lm 16fe0-16fe1>Lm 16fe2>Po 16fe3>Lm 16fe4>Mn 16ff0-16ff1>Mc 17000-187f7>Lo
    18800-18cd5>Lo 18cff-18d08>Lo 1aff0-1aff3>Lm 1aff5-1affb>Lm 1affd-1affe>Lm 1b000-1b122>Lo
    1b132>Lo 1b150-1b152>Lo 1b155>Lo 1b164-1b167>Lo 1b170-1b2fb>Lo 1bc00-1bc6a>Lo 1bc70-1bc7c>Lo
    1bc80-1bc88>Lo 1bc90-1bc99>Lo 1bc9c>So 1bc9d-1bc9e>Mn 1bc9f>Po 1bca0-1bca3>Cf 1cc00-1ccef>So
    1ccf0-1ccf9>Nd 1cd00-1ceb3>So 1cf00-1cf2d>Mn 1cf30-1cf46>Mn 1cf50-1cfc3>So 1d000-1d0f5>So
    1d100-1d126>So 1d129-1d164>So 1d165-1d166>Mc 1d167-1d169>Mn 1d16a-1d16c>So 1d16d-1d172>Mc
    1d173-1d17a>Cf 1d17b-1d182>Mn 1d183-1d184>So 1d185-1d18b>Mn 1d18c-1d1a9>So 1d1aa-1d1ad>Mn
    1d1ae-1d1ea>So 1d200-1d241>So 1d242-1d244>Mn 1d245>So 1d2c0-1d2d3>No 1d2e0-1d2f3>No
    1d300-1d356>So 1d360-1d378>No 1d400-1d419>Lu 1d41a-1d433>Ll 1d434-1d44d>Lu 1d44e-1d454>Ll
    1d456-1d467>Ll 1d468-1d481>Lu 1d482-1d49b>Ll 1d49c>Lu 1d49e-1d49f>Lu 1d4a2>Lu 1d4a5-1d4a6>Lu
    1d4a9-1d4ac>Lu 1d4ae-1d4b5>Lu 1d4b6-1d4b9>Ll 1d4bb>Ll 1d4bd-1d4c3>Ll 1d4c5-1d4cf>Ll
    1d4d0-1d4e9>Lu 1d4ea-1d503>Ll 1d504-1d505>Lu 1d507-1d50a>Lu 1d50d-1d514>Lu 1d516-1d51c>Lu
    1d51e-1d537>Ll 1d538-1d539>Lu 1d53b-1d53e>Lu 1d540-1d544>Lu 1d546>Lu 1d54a-1d550>Lu
    1d552-1d56b>Ll 1d56c-1d585>Lu 1d586-1d59f>Ll 1d5a0-1d5b9>Lu 1d5ba-1d5d3>Ll 1d5d4-1d5ed>Lu
    1d5ee-1d607>Ll 1d608-1d621>Lu 1d622-1d63b>Ll 1d63c-1d655>Lu 1d656-1d66f>Ll 1d670-1d689>Lu
    1d68a-1d6a5>Ll 1d6a8-1d6c0>Lu 1d6c1>Sm 1d6c2-1d6da>Ll 1d6db>Sm 1d6dc-1d6e1>Ll 1d6e2-1d6fa>Lu
    1d6fb>Sm 1d6fc-1d714>Ll 1d715>Sm 1d716-1d71b>Ll 1d71c-1d734>Lu 1d735>Sm 1d736-1d74e>Ll
    1d74f>Sm 1d750-1d755>Ll 1d756-1d76e>Lu 1d76f>Sm 1d770-1d788>Ll 1d789>Sm 1d78a-1d78f>Ll
    1d790-1d7a8>Lu 1d7a9>Sm 1d7aa-1d7c2>Ll 1d7c3>Sm 1d7c4-1d7c9>Ll 1d7ca>Lu 1d7cb>Ll
    1d7ce-1d7ff>Nd 1d800-1d9ff>So 1da00-1da36>Mn 1da37-1da3a>So 1da3b-1da6c>Mn 1da6d-1da74>So
    1da75>Mn 1da76-1da83>So 1da84>Mn 1da85-1da86>So 1da87-1da8b>Po 1da9b-1da9f>Mn 1daa1-1daaf>Mn
    1df00-1df09>Ll 1df0a>Lo 1df0b-1df1e>Ll 1df25-1df2a>Ll 1e000-1e006>Mn 1e008-1e018>Mn
    1e01b-1e021>Mn 1e023-1e024>Mn 1e026-1e02a>Mn 1e030-1e06d>Lm 1e08f>Mn 1e100-1e12c>Lo
    1e130-1e136>Mn 1e137-1e13d>Lm 1e140-1e149>Nd 1e14e>Lo 1e14f>So 1e290-1e2ad>Lo 1e2ae>Mn
    1e2c0-1e2eb>Lo 1e2ec-1e2ef>Mn 1e2f0-1e2f9>Nd 1e2ff>Sc 1e4d0-1e4ea>Lo 1e4eb>Lm 1e4ec-1e4ef>Mn
    1e4f0-1e4f9>Nd 1e5d0-1e5ed>Lo 1e5ee-1e5ef>Mn 1e5f0>Lo 1e5f1-1e5fa>Nd 1e5ff>Po 1e7e0-1e7e6>Lo
    1e7e8-1e7eb>Lo 1e7ed-1e7ee>Lo 1e7f0-1e7fe>Lo 1e800-1e8c4>Lo 1e8c7-1e8cf>No 1e8d0-1e8d6>Mn
    1e900-1e921>Lu 1e922-1e943>Ll 1e944-1e94a>Mn 1e94b>Lm 1e950-1e959>Nd 1e95e-1e95f>Po
    1ec71-1ecab>No 1ecac>So 1ecad-1ecaf>No 1ecb0>Sc 1ecb1-1ecb4>No 1ed01-1ed2d>No 1ed2e>So
    1ed2f-1ed3d>No 1ee00-1ee03>Lo 1ee05-1ee1f>Lo 1ee21-1ee22>Lo 1ee24>Lo 1ee27>Lo 1ee29-1ee32>Lo
    1ee34-1ee37>Lo 1ee39>Lo 1ee3b>Lo 1ee42>Lo 1ee47>Lo 1ee49>Lo 1ee4b>Lo 1ee4d-1ee4f>Lo
    1ee51-1ee52>Lo 1ee54>Lo 1ee57>Lo 1ee59>Lo 1ee5b>Lo 1ee5d>Lo 1ee5f>Lo 1ee61-1ee62>Lo 1ee64>Lo
    1ee67-1ee6a>Lo 1ee6c-1ee72>Lo 1ee74-1ee77>Lo 1ee79-1ee7c>Lo 1ee7e>Lo 1ee80-1ee89>Lo
    1ee8b-1ee9b>Lo 1eea1-1eea3>Lo 1eea5-1eea9>Lo 1eeab-1eebb>Lo 1eef0-1eef1>Sm 1f000-1f02b>So
    1f030-1f093>So 1f0a0-1f0ae>So 1f0b1-1f0bf>So 1f0c1-1f0cf>So 1f0d1-1f0f5>So 1f100-1f10c>No
    1f10d-1f1ad>So 1f1e6-1f202>So 1f210-1f23b>So 1f240-1f248>So 1f250-1f251>So 1f260-1f265>So
    1f300-1f3fa>So 1f3fb-1f3ff>Sk 1f400-1f6d7>So 1f6dc-1f6ec>So 1f6f0-1f6fc>So 1f700-1f776>So
    1f77b-1f7d9>So 1f7e0-1f7eb>So 1f7f0>So 1f800-1f80b>So 1f810-1f847>So 1f850-1f859>So
    1f860-1f887>So 1f890-1f8ad>So 1f8b0-1f8bb>So 1f8c0-1f8c1>So 1f900-1fa53>So 1fa60-1fa6d>So
    1fa70-1fa7c>So 1fa80-1fa89>So 1fa8f-1fac6>So 1face-1fadc>So 1fadf-1fae9>So 1faf0-1faf8>So
    1fb00-1fb92>So 1fb94-1fbef>So 1fbf0-1fbf9>Nd 20000-2a6df>Lo 2a700-2b739>Lo 2b740-2b81d>Lo
    2b820-2cea1>Lo 2ceb0-2ebe0>Lo 2ebf0-2ee5d>Lo 2f800-2fa1d>Lo 30000-3134a>Lo 31350-323af>Lo
    e0001>Cf e0020-e007f>Cf e0100-e01ef>Mn f0000-ffffd>Co 100000-10fffd>Co"

/-- The codes of the general categories and groups, each with its other names. -/
def categoryNames : List (String × List String) :=
  [
    ("C", ["other"]),
    ("Cc", ["control", "cntrl"]),
    ("Cf", ["format"]),
    ("Cn", ["unassigned"]),
    ("Co", ["privateuse"]),
    ("Cs", ["surrogate"]),
    ("L", ["letter"]),
    ("LC", ["casedletter"]),
    ("Ll", ["lowercaseletter"]),
    ("Lm", ["modifierletter"]),
    ("Lo", ["otherletter"]),
    ("Lt", ["titlecaseletter"]),
    ("Lu", ["uppercaseletter"]),
    ("M", ["mark", "combiningmark"]),
    ("Mc", ["spacingmark"]),
    ("Me", ["enclosingmark"]),
    ("Mn", ["nonspacingmark"]),
    ("N", ["number"]),
    ("Nd", ["decimalnumber", "digit"]),
    ("Nl", ["letternumber"]),
    ("No", ["othernumber"]),
    ("P", ["punctuation", "punct"]),
    ("Pc", ["connectorpunctuation"]),
    ("Pd", ["dashpunctuation"]),
    ("Pe", ["closepunctuation"]),
    ("Pf", ["finalpunctuation"]),
    ("Pi", ["initialpunctuation"]),
    ("Po", ["otherpunctuation"]),
    ("Ps", ["openpunctuation"]),
    ("S", ["symbol"]),
    ("Sc", ["currencysymbol"]),
    ("Sk", ["modifiersymbol"]),
    ("Sm", ["mathsymbol"]),
    ("So", ["othersymbol"]),
    ("Z", ["separator"]),
    ("Zl", ["lineseparator"]),
    ("Zp", ["paragraphseparator"]),
    ("Zs", ["spaceseparator"])]

end Text

end Intermediary
