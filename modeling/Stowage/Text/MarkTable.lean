/-! Combining marks: those that take no room of their own, and those that do. -/
namespace Stowage.Text

/-- Marks that take no room have the value one, the others two. -/
def markRows : List String := [
  "300-36f:1 483-489:1 591-5bd:1 5bf:1 5c1-5c2:1 5c4-5c5:1 5c7:1 610-61a:1 64b-65f:1 670:1",
  "6d6-6dc:1 6df-6e4:1 6e7-6e8:1 6ea-6ed:1 711:1 730-74a:1 7a6-7b0:1 7eb-7f3:1 7fd:1 816-819:1",
  "81b-823:1 825-827:1 829-82d:1 859-85b:1 897-89f:1 8ca-902:1 903:2 93a:1 93b:2 93c:1",
  "93e-940:2 941-948:1 949-94c:2 94d:1 94e-94f:2 951-957:1 962-963:1 981:1 982-983:2 9bc:1",
  "9be-9c0:2 9c1-9c4:1 9c7-9cc:2 9cd:1 9d7:2 9e2-9e3:1 9fe-a02:1 a03:2 a3c:1 a3e-a40:2",
  "a41-a51:1 a70-a71:1 a75:1 a81-a82:1 a83:2 abc:1 abe-ac0:2 ac1-ac8:1 ac9-acc:2 acd:1",
  "ae2-ae3:1 afa-b01:1 b02-b03:2 b3c:1 b3e:2 b3f:1 b40:2 b41-b44:1 b47-b4c:2 b4d-b56:1 b57:2",
  "b62-b63:1 b82:1 bbe-bbf:2 bc0:1 bc1-bcc:2 bcd:1 bd7:2 c00:1 c01-c03:2 c04:1 c3c:1 c3e-c40:1",
  "c41-c44:2 c46-c56:1 c62-c63:1 c81:1 c82-c83:2 cbc:1 cbe:2 cbf:1 cc0-cc4:2 cc6:1 cc7-ccb:2",
  "ccc-ccd:1 cd5-cd6:2 ce2-ce3:1 cf3:2 d00-d01:1 d02-d03:2 d3b-d3c:1 d3e-d40:2 d41-d44:1",
  "d46-d4c:2 d4d:1 d57:2 d62-d63:1 d81:1 d82-d83:2 dca:1 dcf-dd1:2 dd2-dd6:1 dd8-ddf:2",
  "df2-df3:2 e31:1 e34-e3a:1 e47-e4e:1 eb1:1 eb4-ebc:1 ec8-ece:1 f18-f19:1 f35:1 f37:1 f39:1",
  "f3e-f3f:2 f71-f7e:1 f7f:2 f80-f84:1 f86-f87:1 f8d-fbc:1 fc6:1 102b-102c:2 102d-1030:1 1031:2",
  "1032-1037:1 1038:2 1039-103a:1 103b-103c:2 103d-103e:1 1056-1057:2 1058-1059:1 105e-1060:1",
  "1062-1064:2 1067-106d:2 1071-1074:1 1082:1 1083-1084:2 1085-1086:1 1087-108c:2 108d:1 108f:2",
  "109a-109c:2 109d:1 135d-135f:1 1712-1714:1 1715:2 1732-1733:1 1734:2 1752-1753:1 1772-1773:1",
  "17b6:2 17b7-17bd:1 17be-17c5:2 17c6:1 17c7-17c8:2 17c9-17d3:1 17dd:1 1885-1886:1 18a9:1",
  "1920-1922:1 1923-1926:2 1927-1928:1 1929-1931:2 1932:1 1933-1938:2 1939-193b:1 1a17-1a18:1",
  "1a19-1a1a:2 1a1b:1 1a55:2 1a56:1 1a57:2 1a58-1a60:1 1a61:2 1a62:1 1a63-1a64:2 1a65-1a6c:1",
  "1a6d-1a72:2 1a73-1a7f:1 1ab0-1b03:1 1b04:2 1b34:1 1b35:2 1b36-1b3a:1 1b3b:2 1b3c:1",
  "1b3d-1b41:2 1b42:1 1b43-1b44:2 1b6b-1b73:1 1b80-1b81:1 1b82:2 1ba1:2 1ba2-1ba5:1 1ba6-1ba7:2",
  "1ba8-1ba9:1 1baa:2 1bab-1bad:1 1be6:1 1be7:2 1be8-1be9:1 1bea-1bec:2 1bed:1 1bee:2",
  "1bef-1bf1:1 1bf2-1bf3:2 1c24-1c2b:2 1c2c-1c33:1 1c34-1c35:2 1c36-1c37:1 1cd0-1cd2:1",
  "1cd4-1ce0:1 1ce1:2 1ce2-1ce8:1 1ced:1 1cf4:1 1cf7:2 1cf8-1cf9:1 1dc0-1dff:1 20d0-20f0:1",
  "2cef-2cf1:1 2d7f:1 2de0-2dff:1 302a-302d:1 302e-302f:2 3099-309a:1 a66f-a672:1 a674-a67d:1",
  "a69e-a69f:1 a6f0-a6f1:1 a802:1 a806:1 a80b:1 a823-a824:2 a825-a826:1 a827:2 a82c:1",
  "a880-a881:2 a8b4-a8c3:2 a8c4-a8c5:1 a8e0-a8f1:1 a8ff:1 a926-a92d:1 a947-a951:1 a952-a953:2",
  "a980-a982:1 a983:2 a9b3:1 a9b4-a9b5:2 a9b6-a9b9:1 a9ba-a9bb:2 a9bc-a9bd:1 a9be-a9c0:2 a9e5:1",
  "aa29-aa2e:1 aa2f-aa30:2 aa31-aa32:1 aa33-aa34:2 aa35-aa36:1 aa43:1 aa4c:1 aa4d:2 aa7b:2",
  "aa7c:1 aa7d:2 aab0:1 aab2-aab4:1 aab7-aab8:1 aabe-aabf:1 aac1:1 aaeb:2 aaec-aaed:1",
  "aaee-aaef:2 aaf5:2 aaf6:1 abe3-abe4:2 abe5:1 abe6-abe7:2 abe8:1 abe9-abea:2 abec:2 abed:1",
  "fb1e:1 fe20-fe2f:1 101fd:1 102e0:1 10376-1037a:1 10a01-10a0f:1 10a38-10a3f:1 10ae5-10ae6:1",
  "10d24-10d27:1 10d69-10d6d:1 10eab-10eac:1 10efa-10eff:1 10f46-10f50:1 10f82-10f85:1 11000:2",
  "11001:1 11002:2 11038-11046:1 11070:1 11073-11074:1 1107f-11081:1 11082:2 110b0-110b2:2",
  "110b3-110b6:1 110b7-110b8:2 110b9-110ba:1 110c2:1 11100-11102:1 11127-1112b:1 1112c:2",
  "1112d-11134:1 11145-11146:2 11173:1 11180-11181:1 11182:2 111b3-111b5:2 111b6-111be:1",
  "111bf-111c0:2 111c9-111cc:1 111ce:2 111cf:1 1122c-1122e:2 1122f-11231:1 11232-11233:2",
  "11234:1 11235:2 11236-11237:1 1123e:1 11241:1 112df:1 112e0-112e2:2 112e3-112ea:1",
  "11300-11301:1 11302-11303:2 1133b-1133c:1 1133e-1133f:2 11340:1 11341-1134d:2 11357:2",
  "11362-11363:2 11366-11374:1 113b8-113ba:2 113bb-113c0:1 113c2-113cd:2 113ce:1 113cf:2",
  "113d0:1 113d2:1 113e1-113e2:1 11435-11437:2 11438-1143f:1 11440-11441:2 11442-11444:1",
  "11445:2 11446:1 1145e:1 114b0-114b2:2 114b3-114b8:1 114b9:2 114ba:1 114bb-114be:2",
  "114bf-114c0:1 114c1:2 114c2-114c3:1 115af-115b1:2 115b2-115b5:1 115b8-115bb:2 115bc-115bd:1",
  "115be:2 115bf-115c0:1 115dc-115dd:1 11630-11632:2 11633-1163a:1 1163b-1163c:2 1163d:1",
  "1163e:2 1163f-11640:1 116ab:1 116ac:2 116ad:1 116ae-116af:2 116b0-116b5:1 116b6:2 116b7:1",
  "1171d:1 1171e:2 1171f:1 11720-11721:2 11722-11725:1 11726:2 11727-1172b:1 1182c-1182e:2",
  "1182f-11837:1 11838:2 11839-1183a:1 11930-11938:2 1193b-1193c:1 1193d:2 1193e:1 11940:2",
  "11942:2 11943:1 119d1-119d3:2 119d4-119db:1 119dc-119df:2 119e0:1 119e4:2 11a01-11a0a:1",
  "11a33-11a38:1 11a39:2 11a3b-11a3e:1 11a47:1 11a51-11a56:1 11a57-11a58:2 11a59-11a5b:1",
  "11a8a-11a96:1 11a97:2 11a98-11a99:1 11b60:1 11b61:2 11b62-11b64:1 11b65:2 11b66:1 11b67:2",
  "11c2f:2 11c30-11c3d:1 11c3e:2 11c3f:1 11c92-11ca7:1 11ca9:2 11caa-11cb0:1 11cb1:2",
  "11cb2-11cb3:1 11cb4:2 11cb5-11cb6:1 11d31-11d45:1 11d47:1 11d8a-11d8e:2 11d90-11d91:1",
  "11d93-11d94:2 11d95:1 11d96:2 11d97:1 11ef3-11ef4:1 11ef5-11ef6:2 11f00-11f01:1 11f03:2",
  "11f34-11f35:2 11f36-11f3a:1 11f3e-11f3f:2 11f40:1 11f41:2 11f42:1 11f5a:1 13440:1",
  "13447-13455:1 1611e-16129:1 1612a-1612c:2 1612d-1612f:1 16af0-16af4:1 16b30-16b36:1 16f4f:1",
  "16f51-16f87:2 16f8f-16f92:1 16fe4:1 16ff0-16ff1:2 1bc9d-1bc9e:1 1cf00-1cf46:1 1d165-1d166:2",
  "1d167-1d169:1 1d16d-1d172:2 1d17b-1d182:1 1d185-1d18b:1 1d1aa-1d1ad:1 1d242-1d244:1",
  "1da00-1da36:1 1da3b-1da6c:1 1da75:1 1da84:1 1da9b-1daaf:1 1e000-1e08f:1 1e130-1e136:1",
  "1e2ae:1 1e2ec-1e2ef:1 1e4ec-1e4ef:1 1e5ee-1e5ef:1 1e6e3:1 1e6e6:1 1e6ee-1e6ef:1 1e6f5:1",
  "1e8d0-1e8d6:1 1e944-1e94a:1"]

end Stowage.Text
