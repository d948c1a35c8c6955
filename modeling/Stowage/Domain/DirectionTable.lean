/-! Directions of characters, where they do not follow from what kind of character it is. -/
namespace Stowage.Domain

/-- The value is the position among the directions. -/
def directionRows : List String := [
  "a1:8 a2-a5:7 a6-ae:8 b0-b1:7 b6-d7:8 f7:8 2b9-2ba:8 2c2-2cf:8 2d2-2ed:8 2ef-2ff:8 375:8",
  "3f6:8 58a-58e:8 58f:7 5be:1 5c0:1 5c3:1 5c6:1 5d0-5f4:1 606-607:8 608:2 609-60a:7 60b:2",
  "60c:6 60d:2 60e-60f:8 61b-64a:2 660-669:3 66a:7 66b-66c:3 66d-66f:2 671-6d5:2 6de:8",
  "6e5-6e6:2 6e9:8 6ee-6ef:2 6f0-6f9:4 6fa-710:2 712-72f:2 74d-7a5:2 7b1:2 7c0-7ea:1 7f4-7f5:1",
  "7f6-7f9:8 7fa:1 7fe-815:1 81a:1 824:1 828:1 830-858:1 85e:1 860-88f:2 8a0-8c9:2 9f2-9f3:7",
  "9fb:7 af1:7 bf3-bf8:8 bf9:7 bfa:8 c78-c7e:8 cbf:b cc6:b e3f:7 f3a-f3d:8 1390-1399:8 1400:8",
  "169b-169c:8 17db:7 17f0-180a:8 1940-1945:8 19de-19ff:8 200c-200d:9 2010-2027:8 2030-2032:7",
  "2035-2043:8 2044:6 2045-205e:8 20a0-20c1:7 2104-2129:8 212e:7 213a-214d:8 218a-2211:8 2212:5",
  "2213:7 2214-2335:8 237b-2394:8 2396-26ab:8 26ad-27ff:8 2900-2bff:8 2ce5-2cea:8 2cf9-2cff:8",
  "2e00-3004:8 3008-3020:8 3030:8 3037:8 303d-303f:8 30a0:8 30fb:8 31c0-31e5:8 4dc0-4dff:8",
  "a490-a4c6:8 a60d-a60f:8 a673:8 a67e-a67f:8 a700-a721:8 a788:8 a828-a82b:8 a838-a839:7",
  "a874-a877:8 ab6a-ab6b:8 fbb2-fbc2:2 fbc3-fdff:8 fe45-fe46:8 fe73:2 10101:8 10140-1018c:8",
  "10190-101a0:8 102e1-102fb:4 10800-1091b:1 1091f:8 10920-10a00:1 10a10-10a35:1 10a40-10ae4:1",
  "10aeb-10b35:1 10b39-10b3f:8 10b40-10cff:1 10d00-10d23:2 10d30-10d39:3 10d40-10d4f:1 10d6e:8",
  "10d6f-10d8f:1 10e60-10e7e:3 10e80-10ea9:1 10ead-10eb1:1 10ec2-10ec7:2 10ed1-10ed8:8",
  "10f00-10f27:1 10f30-10f45:2 10f51-10f59:2 10f70-10f81:1 10f86-10ff6:1 11052-11065:8",
  "11660-1166c:8 1171e:a 11a07-11a08:b 11c3f:b 11fd5-11fdc:8 11fdd-11fe0:7 11fe1-11ff1:8",
  "16fe2:8 1cc00-1cef0:8 1d1e9-1d241:8 1d245:8 1d300-1d356:8 1e2ff:7 1e800-1e8cf:1",
  "1e922-1e943:1 1e94b-1e95f:1 1ec71-1ed3d:2 1eef0-1f12f:8 1f16d-1f16f:8 1f1ad:8 1f260-1fbfa:8"]

end Stowage.Domain
